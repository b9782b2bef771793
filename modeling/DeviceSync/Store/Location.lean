import DeviceSync.Bytes.Basic

/-!
# Where a database is kept

The place of a database is given as text: a file name in which `%` and two digits stand for an octet,
perhaps after a scheme, and perhaps with settings after a question mark. A database without a file lasts
as long as the command that uses it.
-/

namespace DeviceSync

/-- Where a database is kept. -/
inductive DatabaseLocation
  /-- In no file. -/
  | transient
  | file (path : String)
deriving DecidableEq

namespace DatabaseLocation

/-- Removes a beginning as often as it stands there; the fuel bounds the number of times. -/
def trimStart (mark : List Char) : (fuel : Nat) → List Char → List Char
  | 0, cs => cs
  | fuel + 1, cs => if mark.isPrefixOf cs then trimStart mark fuel (cs.drop mark.length) else cs

/-- Text without the schemes at its beginning. -/
def withoutScheme (cs : List Char) : List Char :=
  let cs := trimStart "sqlite://".toList cs.length cs
  trimStart "sqlite:".toList cs.length cs

/-- Replaces `%` and two digits by the octet that they stand for; other octets stand for themselves. -/
def unescape : Bytes → Bytes
  | 0x25 :: hi :: lo :: rest =>
    match Bytes.hexValue? (Char.ofNat hi.toNat), Bytes.hexValue? (Char.ofNat lo.toNat) with
    | some h, some l => UInt8.ofNat (16 * h + l) :: unescape rest
    | _, _ => 0x25 :: unescape (hi :: lo :: rest)
  | b :: rest => b :: unescape rest
  | [] => []
termination_by bs => bs.length

/-- What a setting says about the file. -/
inductive Setting
  | noFile
  | sameFile
deriving DecidableEq

def settings : List (String × Setting) :=
  [("", .sameFile), ("mode=ro", .sameFile), ("mode=rw", .sameFile), ("mode=rwc", .sameFile),
    ("mode=memory", .noFile), ("cache=private", .sameFile), ("cache=shared", .sameFile),
    ("immutable=true", .sameFile), ("immutable=1", .sameFile), ("immutable=false", .sameFile),
    ("immutable=0", .sameFile)]

/-- Reads a location; nothing if a setting is unknown or the file name is no text. -/
def ofText? (s : String) : Option DatabaseLocation := do
  let cs := withoutScheme s.toList
  let name := String.ofList (cs.takeWhile (· != '?'))
  let query := String.ofList ((cs.dropWhile (· != '?')).drop 1)
  let chosen ← (query.splitOn "&").mapM (settings.lookup ·)
  let path ← (unescape (Bytes.ofText name)).toText?
  return if name = ":memory:" || path = "" || chosen.contains .noFile then .transient else .file path

end DatabaseLocation

end DeviceSync
