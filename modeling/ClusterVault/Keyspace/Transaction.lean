import ClusterVault.Text.Bytes

/-!
# Transactions

A transaction checks conditions on records and then runs one of two lists of operations, all at one
revision.

## Main definitions

- `Record`: a value under a key, with its history in three numbers
- `Condition`: a test on the history of one record
- `Operation`, `Outcome`: one step of a transaction and its result
- `Transaction`, `Transaction.Result`: the whole

## Design notes

A key without a record counts as one whose three numbers are `0`. A record that exists has been
created at a revision above `1` and written at least once, so conditions can tell the two apart.
-/

namespace ClusterVault

/-- The number a lease is known by. -/
abbrev LeaseId := Int

/-- A value under a key, with its history. -/
structure Record where
  key : Bytes
  value : Bytes
  /-- The revision at which the key was last created. -/
  created : Int
  /-- The revision at which the value was last written. -/
  modified : Int
  /-- How often the value was written since the key was created. -/
  version : Int
  /-- The lease whose end removes the key. -/
  lease : Option LeaseId
  deriving DecidableEq, Repr

/-- A number in the history of a record. -/
inductive History where
  | created
  | modified
  | version
  deriving DecidableEq, Repr

/-- The names of the numbers. -/
def History.names : List (String × History) :=
  [("create", .created), ("mod", .modified), ("version", .version)]

/-- The number that a history item names; `0` for a missing record. -/
def History.ofRecord? (h : History) : Option Record → Int
  | none => 0
  | some r => match h with
    | .created => r.created
    | .modified => r.modified
    | .version => r.version

/-- A relation between two numbers. -/
inductive Relation where
  | equal
  | greater
  | less
  | notEqual
  deriving DecidableEq, Repr

/-- The signs of the relations. -/
def Relation.signs : List (String × Relation) :=
  [("=", .equal), (">", .greater), ("<", .less), ("!=", .notEqual)]

/-- Whether the relation holds. -/
def Relation.holds : Relation → Int → Int → Bool
  | .equal, a, b => a = b
  | .greater, a, b => a > b
  | .less, a, b => a < b
  | .notEqual, a, b => a ≠ b

/-- A test on the history of one record. -/
structure Condition where
  key : Bytes
  subject : History
  relation : Relation
  value : Int
  deriving DecidableEq, Repr

namespace Condition

/-- The condition that a key has no record. -/
def absent (key : Bytes) : Condition := ⟨key, .created, .equal, 0⟩

/-- The condition that a key has a record. -/
def present (key : Bytes) : Condition := ⟨key, .created, .greater, 0⟩

/-- Whether the condition holds of what is stored under its key. -/
def holds (c : Condition) (stored : Option Record) : Bool :=
  c.relation.holds (c.subject.ofRecord? stored) c.value

end Condition

/-- One step of a transaction. -/
inductive Operation where
  | put (key value : Bytes) (lease : Option LeaseId)
  | get (key : Bytes)
  | delete (key : Bytes)
  deriving DecidableEq, Repr

namespace Operation

/-- The key an operation touches. -/
def key : Operation → Bytes
  | put k _ _ => k
  | get k => k
  | delete k => k

/-- The lease an operation attaches its key to. -/
def lease? : Operation → Option LeaseId
  | put _ _ lease => lease
  | _ => none

end Operation

/-- The result of one step of a transaction. -/
inductive Outcome where
  | put
  /-- The record found, as a list of at most one. -/
  | got (records : List Record)
  /-- The number of records removed. -/
  | deleted (count : Nat)
  deriving DecidableEq, Repr

/-- The records that an outcome shows, if it is one that shows records. -/
def Outcome.records? : Outcome → Option (List Record)
  | .got records => some records
  | _ => none

/-- Conditions with the operations to run if all of them hold and those to run otherwise. -/
structure Transaction where
  conditions : List Condition := []
  success : List Operation := []
  failure : List Operation := []
  deriving DecidableEq, Repr

/-- The length of the longer list of operations. -/
def Transaction.maxBranchLength (t : Transaction) : Nat :=
  max t.success.length t.failure.length

/-- What a transaction answers. -/
structure Transaction.Result where
  /-- Whether all conditions held. -/
  succeeded : Bool
  /-- The revision after the transaction. -/
  revision : Int
  /-- One outcome for every operation that was run. -/
  outcomes : List Outcome
  deriving DecidableEq, Repr

end ClusterVault
