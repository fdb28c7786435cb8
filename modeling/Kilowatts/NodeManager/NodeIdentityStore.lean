import Kilowatts.NodeManager.NodeCommissioningRegistry

namespace kilowatts

/-- The identity of one Smart Node. The name stands without its final zero. -/
structure NodeIdentityStore where
  lifecycleState : NodeLifecycleState
  friendlyName : List UInt8
deriving DecidableEq

namespace NodeIdentityStore

/-- The buffer of a name, with the zero behind. -/
def FRIENDLY_NAME_BUFFER_SIZE : Nat := 20

/-- The constructor. -/
def make : NodeIdentityStore := ⟨.UNCOMMISSIONED, []⟩

/-- A name is not empty and fits into its buffer. -/
def isValidFriendlyName (friendlyName : List UInt8) : Bool :=
  friendlyName != [] && friendlyName.length < FRIENDLY_NAME_BUFFER_SIZE

/-- A first commissioning and a rename alike; only the first changes the state. -/
def applyCommission (friendlyName : List UInt8) (store : NodeIdentityStore) : NodeIdentityStore × Bool :=
  if !isValidFriendlyName friendlyName then (store, false)
  else if store.lifecycleState = .UNCOMMISSIONED then (⟨.COMMISSIONED, friendlyName⟩, true)
  else if isCommissionedLifecycle store.lifecycleState then ({ store with friendlyName }, true)
  else (store, false)

/-- The state and the name of a Node that was never commissioned. -/
def applyDecommission : NodeIdentityStore := ⟨.UNCOMMISSIONED, []⟩

/-- Any other state counts as uncommissioned. -/
def isCommissioned (store : NodeIdentityStore) : Bool := isCommissionedLifecycle store.lifecycleState

/-- What `loadPersisted` checks of the persisted identity. -/
def isLoadable (store : NodeIdentityStore) : Bool :=
  store.lifecycleState = .UNCOMMISSIONED || (store.isCommissioned && isValidFriendlyName store.friendlyName)

/-- The identity after a boot that finds `persisted`. -/
def loadPersisted (persisted : NodeIdentityStore) : NodeIdentityStore :=
  if persisted.isLoadable then persisted else make

theorem isLoadable_applyCommission {store : NodeIdentityStore} (hloadable : store.isLoadable = true)
    (friendlyName : List UInt8) : (store.applyCommission friendlyName).1.isLoadable = true := by
  unfold applyCommission
  split
  · exact hloadable
  rename_i hname
  split
  · simpa [isLoadable, isCommissioned, isCommissionedLifecycle] using hname
  split
  · rename_i hcommissioned
    simp only [isLoadable, isCommissioned, hcommissioned, Bool.true_and, Bool.or_eq_true]
    exact .inr (by simpa using hname)
  · exact hloadable

end NodeIdentityStore

end kilowatts
