import DeviceSync.Store.Nonces
import DeviceSync.Store.Tasks

/-!
# Databases

A database holds the nonces that were used and the tasks that are pending. `Database.toBytes` is its form
as a file, after a mark with which no text starts.
-/

namespace DeviceSync

open Wire

/-- The nonces that were used and the tasks that are pending. -/
structure Database where
  nonces : NonceTable := {}
  tasks : TaskTable := {}
deriving DecidableEq

instance : Encoded TaskRow where
  shape := .record <|
    .field "number" (.number .long) <|
    .field "id" .text <|
    .field "data" (.list octetShape) .empty
  toValue r := (UInt64.ofNat r.number, r.idText, r.data, ())
  ofValue | (n, i, d, ()) => ⟨n.toNat, i, d⟩

instance : Encoded Database where
  shape := .record <|
    .field "nonces" (.list (.block 32)) <|
    .field "tasks" (.list (Encoded.shape TaskRow)) <|
    .field "last_number" (.number .long) .empty
  toValue d :=
    (d.nonces.rows, d.tasks.rows.map Encoded.toValue, UInt64.ofNat d.tasks.lastNumber, ())
  ofValue | (ns, ts, n, ()) => ⟨⟨ns⟩, ⟨ts.map Encoded.ofValue, n.toNat⟩⟩

namespace Database

/-- Records nonces that were used and saves tasks; nothing is saved if a nonce was there. -/
def enter (d : Database) (batch : List NonceHash) (tasks : List (TaskId × TaskData)) :
    Bool × Database :=
  match d.nonces.insertAll batch with
  | (false, nonces) => (false, { d with nonces })
  | (true, nonces) => (true, ⟨nonces, tasks.foldl (fun t (id, data) => t.save id data) d.tasks⟩)

/-- The first octet of a database file. -/
def mark : UInt8 := 0xff

/-- The database as a file. -/
def toBytes (d : Database) : Bytes := mark :: Encoded.encode d

/-- Reads a file; an empty one is an empty database. -/
def ofBytes? : Bytes → Option Database
  | [] => some {}
  | b :: bs => if b = mark then (Encoded.decode Database bs).toOption else none

end Database

end DeviceSync
