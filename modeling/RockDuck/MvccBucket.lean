import RockDuck.StorageErrors

/-!
# The MVCC bucket of the metadata store

The metadata store keeps three kinds of record for the visibility manager: the
largest committed transaction id, one record per committed transaction and one
per active transaction.
-/

namespace RockDuck

abbrev TxnId := Nat

/-- What the KV store has of the transactions. -/
structure MvccBucket where
  committedTxn : Option TxnId
  committed : Std.ExtTreeMap TxnId Nat
  activeTxns : Std.ExtTreeMap TxnId Nat

/-- The entries that a listing of a table gives.  It need not give all of
them: the iterator seeks anew for every entry, and the keys that a seek of the
store reaches are those that begin with its argument. -/
structure Listing where
  entries : Std.ExtTreeMap TxnId Nat → List (TxnId × Nat)
  stored : ∀ table, ∀ entry ∈ entries table, entry ∈ table.toList

/-- The listing that ends after its first entry. -/
def Listing.first : Listing where
  entries table := table.toList.take 1
  stored _ _ mem := List.mem_of_mem_take mem

namespace MvccBucket

def empty : MvccBucket where
  committedTxn := none
  committed := ∅
  activeTxns := ∅

def putCommittedTxn (kv : MvccBucket) (txnId : TxnId) (fault : Fault) :
    MvccBucket × Except RockDuckError Unit :=
  fault.perform kv { kv with committedTxn := some txnId }

def getCommittedTxn (kv : MvccBucket) : TxnId :=
  kv.committedTxn.getD 0

def addActiveTxn (kv : MvccBucket) (txnId : TxnId) (beginTs : Nat)
    (fault : Fault) : MvccBucket × Except RockDuckError Unit :=
  fault.perform kv { kv with activeTxns := kv.activeTxns.insert txnId beginTs }

def removeActiveTxn (kv : MvccBucket) (txnId : TxnId) (fault : Fault) :
    MvccBucket × Except RockDuckError Unit :=
  fault.perform kv { kv with activeTxns := kv.activeTxns.erase txnId }

def getActiveTxns (kv : MvccBucket) (listing : Listing) : List (TxnId × Nat) :=
  listing.entries kv.activeTxns

/-- Store a commit. -/
def commitTxnRecord (kv : MvccBucket) (txnId : TxnId) (commitTs : Nat)
    (fault : Fault) : MvccBucket × Except RockDuckError Unit :=
  fault.perform kv { kv with committed := kv.committed.insert txnId commitTs }

/-- The stored commits. -/
def getCommittedTxns (kv : MvccBucket) (listing : Listing) : Std.ExtTreeMap TxnId Nat :=
  Std.ExtTreeMap.ofList (listing.entries kv.committed)

end MvccBucket

end RockDuck
