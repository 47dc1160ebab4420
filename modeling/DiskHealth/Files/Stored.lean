import DiskHealth.Discovery
import DiskHealth.Files.Document
import DiskHealth.Json.Records

/-!
What is kept in files between runs: the baselines of the discovered items and the last observations
of the counters. A missing file stands for an empty store or state.
-/

namespace DiskHealth

open Files (FileAccess StoreError Document.load Document.save)

variable {m : Type → Type} [Monad m] [FileAccess m]

/-- The store of a loaded document, empty if there was none. -/
def BaselineStore.ofLoaded (loaded : Except StoreError (Option BaselineStore)) :
    Except StoreError BaselineStore :=
  loaded.map (·.getD ∅)

def BaselineStore.load (path : String) : m (Except StoreError BaselineStore) :=
  BaselineStore.ofLoaded <$> Document.load BaselineStore path

def BaselineStore.save (path : String) (store : BaselineStore) : m (Except StoreError Unit) :=
  Document.save path store

/-- The state of loaded counters, empty if there were none. -/
def RateState.ofLoaded (loaded : Except StoreError (Option RateState)) :
    Except StoreError RateState :=
  loaded.map (·.getD ∅)

def RateState.load (path : String) : m (Except StoreError RateState) :=
  RateState.ofLoaded <$> Document.load RateState path

def RateState.save (path : String) (state : RateState) : m (Except StoreError Unit) :=
  Document.save path state

end DiskHealth
