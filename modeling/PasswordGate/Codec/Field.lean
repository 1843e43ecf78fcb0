import PasswordGate.Codec.Word
/-!
# Field — a length word and that many bytes

`write` puts a field into prepared storage at an offset; `read` takes one out of the window that ends at `stop`.  `read`
is where hostile lengths arrive: it checks the declared length against what is left of the window, and then against the
caller's limit, before it takes any content.
-/
namespace PasswordGate
namespace Field

def encodedSize (content : Bytes) : Nat := Word.size + content.length

def totalSize : List Bytes → Nat
  | [] => 0
  | content :: rest => encodedSize content + totalSize rest

/-- The limit that lets every length through. -/
def maxLength : Nat := Word.largest

/-- **A field written over the storage at an offset**; also the offset just past it. -/
def write (out : Bytes) (offset : Int) (content : Bytes) : Except CodecError (Bytes × Int) := do
  let lengthWord ← Word.encode content.length
  let withLength := out.splice offset (offset + Word.size) lengthWord
  let start := offset + Word.size
  let stop := start + content.length
  return (withLength.splice start stop content, stop)

/-- **The field at an offset of the window that ends at `stop`**; also the offset just past it. -/
def read (data : Bytes) (offset stop limit : Int) : Except CodecError (Bytes × Int) := do
  if stop - offset < Word.size then throw (.truncatedField (stop - offset).toNat)
  let declared ← Word.decode (data.slice offset (offset + Word.size))
  let start := offset + Word.size
  let remaining := stop - start
  if remaining < declared then throw (.fieldOverrun declared remaining)
  if limit < declared then throw (.fieldOverLimit declared limit)
  return (data.slice start (start + declared), start + declared)

def writeAll (out : Bytes) (offset : Int) : List Bytes → Except CodecError (Bytes × Int)
  | [] => .ok (out, offset)
  | content :: rest => do
    let (out, offset) ← write out offset content
    writeAll out offset rest

/-- **The fields of a payload up to the first malformed one**, and whether none was malformed. -/
def readAll (data : Bytes) (stop limit : Int) : Nat → Int → Except CodecError (List Bytes × Bool)
  | 0, _ => .ok ([], true)
  | count + 1, offset =>
    match read data offset stop limit with
    | .error e => if e.isMalformed then .ok ([], false) else .error e
    | .ok (content, offset) => do
      let (rest, complete) ← readAll data stop limit count offset
      return (content :: rest, complete)

end Field
end PasswordGate
