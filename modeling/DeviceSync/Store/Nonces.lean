import DeviceSync.Bytes.Sha256
import DeviceSync.Identifier
import DeviceSync.Identity

/-!
# Nonce stores

Nonces that were used are remembered as hashes, each together with the identity it belongs to, so that
a copy of the store shows neither. The nonces of one message are recorded together or not at all.

There are two stores. `NonceSet` looks at the whole batch before it adds any of it. `NonceTable` keeps
rows in a database: it inserts row by row and takes the rows back when one is already there.
-/

namespace DeviceSync

/-- The stored form of a nonce. -/
abbrev NonceHash := Block 32

/-- What is hashed for a nonce: a mark of its purpose, the identity and the nonce. -/
def Nonce.hashInput (scope : Identity) (n : Nonce) : Bytes :=
  Bytes.ofText "mdsync-nonce-v1" ++ scope.toBytes ++ n.block.bytes

/-- The stored form of a nonce of an identity. -/
def Nonce.hash (scope : Identity) (n : Nonce) : NonceHash := Sha256.digest (n.hashInput scope)

/-- The distinct stored forms of some nonces. -/
def Nonce.hashes (scope : Identity) (ns : List Nonce) : List NonceHash :=
  (ns.map (Nonce.hash scope)).eraseDups

/-- Nonces in memory. -/
structure NonceSet where
  hashes : List NonceHash := []
deriving DecidableEq

namespace NonceSet

/-- Adds a batch, if no hash of it is there. -/
def insertAll (s : NonceSet) (batch : List NonceHash) : Bool × NonceSet :=
  if batch.any s.hashes.contains then (false, s) else (true, ⟨s.hashes ++ batch⟩)

def removeAll (s : NonceSet) (batch : List NonceHash) : NonceSet :=
  ⟨batch.foldl List.erase s.hashes⟩

end NonceSet

/-- Nonces in a database, a row each. -/
structure NonceTable where
  rows : List NonceHash := []
deriving DecidableEq

namespace NonceTable

/-- Adds a row, unless it is there. -/
def insertRow (t : NonceTable) (h : NonceHash) : Option NonceTable :=
  if t.rows.contains h then none else some ⟨t.rows ++ [h]⟩

/-- Adds rows until one is already there. -/
def insertRows (t : NonceTable) : List NonceHash → Option NonceTable
  | [] => some t
  | h :: hs =>
    match t.insertRow h with
    | some t => t.insertRows hs
    | none => none

/-- Adds a batch; when a row is already there, the rows added so far are taken back. -/
def insertAll (t : NonceTable) (batch : List NonceHash) : Bool × NonceTable :=
  match t.insertRows batch with
  | some t => (true, t)
  | none => (false, t)

/-- Removes the rows of a batch, one after the other. -/
def removeAll (t : NonceTable) (batch : List NonceHash) : NonceTable :=
  batch.foldl (fun t h => ⟨t.rows.filter (· != h)⟩) t

end NonceTable

/-- A store of used nonces. -/
inductive NonceStore
  | memory (set : NonceSet)
  | database (table : NonceTable)
deriving DecidableEq

namespace NonceStore

def hashes : NonceStore → List NonceHash
  | memory s => s.hashes
  | database t => t.rows

/-- Records the nonces of a message together; refused if one of them was recorded before. -/
def insertAll (s : NonceStore) (scope : Identity) (ns : List Nonce) : Bool × NonceStore :=
  let batch := Nonce.hashes scope ns
  match s with
  | memory s => let (inserted, s) := s.insertAll batch; (inserted, memory s)
  | database t => let (inserted, t) := t.insertAll batch; (inserted, database t)

/-- Forgets nonces, so that a message that had no effect is not taken for a replay. -/
def removeAll (s : NonceStore) (scope : Identity) (ns : List Nonce) : NonceStore :=
  let batch := Nonce.hashes scope ns
  match s with
  | memory s => memory (s.removeAll batch)
  | database t => database (t.removeAll batch)

def contains (s : NonceStore) (scope : Identity) (n : Nonce) : Bool :=
  s.hashes.contains (n.hash scope)

def count (s : NonceStore) : Nat := s.hashes.length

end NonceStore

end DeviceSync
