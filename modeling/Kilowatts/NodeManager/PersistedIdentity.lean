import Kilowatts.Library.KeyedWrites
import Kilowatts.NodeManager.CommissioningRegistry
import Kilowatts.NodeManager.NodeIdentityStore

namespace kilowatts

namespace NodeIdentityStore

def CURRENT_SCHEMA_VERSION : UInt8 := 1

/-- The three keys of the namespace. -/
structure Nvs where
  schema : Option UInt8
  state : Option UInt8
  name : Option (List UInt8)
deriving DecidableEq

/-- `nvs_get_str` into a buffer that must hold the final zero too. -/
def readName (nvs : Nvs) : Option (List UInt8) :=
  nvs.name.filter (fun friendlyName => friendlyName.length < FRIENDLY_NAME_BUFFER_SIZE)

/-- What a boot takes from the flash. -/
def loadNvs (nvs : Nvs) : Option NodeIdentityStore := do
  let schema ← nvs.schema
  guard (schema = CURRENT_SCHEMA_VERSION)
  let lifecycleState := NodeLifecycleState.ofByte (← nvs.state)
  guard (lifecycleState = .UNCOMMISSIONED ∨ isCommissionedLifecycle lifecycleState)
  let friendlyName ← readName nvs
  guard (lifecycleState = .UNCOMMISSIONED ∨ isValidFriendlyName friendlyName)
  return ⟨lifecycleState, friendlyName⟩

/-- What the member functions can leave in a store. -/
structure Held extends NodeIdentityStore where
  loadable : toNodeIdentityStore.isLoadable = true
  fits : friendlyName.length < FRIENDLY_NAME_BUFFER_SIZE
deriving DecidableEq

def writes (identity : NodeIdentityStore) : List (Nvs → Nvs) :=
  -- `nvs_open` writes nothing
  [id, fun nvs => { nvs with schema := some CURRENT_SCHEMA_VERSION },
    fun nvs => { nvs with state := some identity.lifecycleState.toByte },
    fun nvs => { nvs with name := some identity.friendlyName }]

/-- The first `done` of the calls to the flash succeed. -/
def persistNvs (done : Nat) (identity : NodeIdentityStore) (nvs : Nvs) : Nvs × Bool :=
  KeyedWrites.store (writes identity ++ [id]) done nvs

/-- The flash holds the identity. -/
def IsPersisted (identity : NodeIdentityStore) (nvs : Nvs) : Prop :=
  nvs.schema = some CURRENT_SCHEMA_VERSION ∧ nvs.state.map NodeLifecycleState.ofByte = some identity.lifecycleState ∧
    nvs.name = some identity.friendlyName

theorem isLoadable_iff (identity : NodeIdentityStore) :
    identity.isLoadable = true ↔
      (identity.lifecycleState = .UNCOMMISSIONED ∨ isCommissionedLifecycle identity.lifecycleState = true) ∧
        (identity.lifecycleState = .UNCOMMISSIONED ∨ isValidFriendlyName identity.friendlyName = true) := by
  simp only [isLoadable, isCommissioned, Bool.or_eq_true, Bool.and_eq_true, decide_eq_true_eq, or_and_left]

theorem loadNvs_eq_some {nvs : Nvs} {identity : NodeIdentityStore} :
    loadNvs nvs = some identity ↔
      IsPersisted identity nvs ∧ identity.isLoadable = true ∧
        identity.friendlyName.length < FRIENDLY_NAME_BUFFER_SIZE := by
  obtain ⟨schema, state, name⟩ := nvs
  obtain ⟨lifecycleState, friendlyName⟩ := identity
  rw [isLoadable_iff]
  simp only [loadNvs, readName, IsPersisted, bind, pure, Option.bind_eq_some_iff, Option.some.injEq, mk.injEq,
    Option.filter_eq_some_iff, Option.guard_eq_some', decide_eq_true_eq]
  constructor
  · rintro ⟨_, rfl, _, rfl, byte, rfl, _, hlifecycle, _, ⟨rfl, hfits⟩, _, hname, rfl, rfl⟩
    exact ⟨⟨rfl, rfl, rfl⟩, ⟨hlifecycle, hname⟩, hfits⟩
  · rintro ⟨⟨rfl, hstate, rfl⟩, ⟨hlifecycle, hname⟩, hfits⟩
    obtain ⟨byte, rfl, rfl⟩ := Option.map_eq_some_iff.mp hstate
    exact ⟨_, rfl, (), rfl, byte, rfl, (), hlifecycle, friendlyName, ⟨rfl, hfits⟩, (), hname, rfl, rfl⟩

theorem loadNvs_ext_iff {nvs nvs' : Nvs} :
    loadNvs nvs = loadNvs nvs' ↔ ∀ identity : NodeIdentityStore, identity.isLoadable = true →
      identity.friendlyName.length < FRIENDLY_NAME_BUFFER_SIZE → (IsPersisted identity nvs ↔ IsPersisted identity nvs') := by
  rw [Option.ext_iff]
  simp only [loadNvs_eq_some]
  constructor
  · intro hsame identity hloadable hfits
    simpa [hloadable, hfits] using hsame identity
  · intro hsame identity
    constructor
    · rintro ⟨hpersisted, hloadable, hfits⟩
      exact ⟨(hsame identity hloadable hfits).mp hpersisted, hloadable, hfits⟩
    · rintro ⟨hpersisted, hloadable, hfits⟩
      exact ⟨(hsame identity hloadable hfits).mpr hpersisted, hloadable, hfits⟩

theorem loadNvs_written (identity : Held) (nvs : Nvs) :
    loadNvs (KeyedWrites.after (writes identity.toNodeIdentityStore ++ [id])
      (writes identity.toNodeIdentityStore ++ [id]).length nvs) = some identity.toNodeIdentityStore := by
  rw [loadNvs_eq_some]
  refine ⟨⟨rfl, ?_, rfl⟩, identity.loadable, identity.fits⟩
  simp [writes]

theorem loadNvs_of_persisted (identity : Held) {done : Nat} {nvs : Nvs}
    (hpersisted : (persistNvs done identity.toNodeIdentityStore nvs).2 = true) :
    loadNvs (persistNvs done identity.toNodeIdentityStore nvs).1 = some identity.toNodeIdentityStore := by
  have hdone : (writes identity.toNodeIdentityStore ++ [id]).length ≤ done := by
    simpa [persistNvs, KeyedWrites.store] using hpersisted
  rw [persistNvs, KeyedWrites.store, KeyedWrites.after_of_length_le hdone, loadNvs_written]

/-- The stores that the member functions lead to. -/
inductive Reached : NodeIdentityStore → Prop where
  | make : Reached .make
  | loadPersisted {nvs : Nvs} {identity : NodeIdentityStore} (hload : loadNvs nvs = some identity) : Reached identity
  | applyCommission {identity : NodeIdentityStore} (friendlyName : List UInt8) (hreached : Reached identity) :
      Reached (identity.applyCommission friendlyName).1
  | applyDecommission : Reached .applyDecommission

theorem fits_applyCommission {identity : NodeIdentityStore}
    (hfits : identity.friendlyName.length < FRIENDLY_NAME_BUFFER_SIZE) (friendlyName : List UInt8) :
    (identity.applyCommission friendlyName).1.friendlyName.length < FRIENDLY_NAME_BUFFER_SIZE := by
  unfold applyCommission
  split
  · exact hfits
  rename_i hvalid
  have hname : friendlyName.length < FRIENDLY_NAME_BUFFER_SIZE := by
    simp only [isValidFriendlyName, Bool.not_eq_true, Bool.not_eq_false', Bool.and_eq_true, decide_eq_true_eq] at hvalid
    exact hvalid.2
  split
  · exact hname
  split
  · exact hname
  · exact hfits

/-- A commission that is accepted leaves a commissioned Node with the new name. -/
theorem applyCommission_accepted {identity : NodeIdentityStore} {friendlyName : List UInt8}
    (haccepted : (identity.applyCommission friendlyName).2 = true) :
    (identity.applyCommission friendlyName).1.friendlyName = friendlyName ∧
      (identity.applyCommission friendlyName).1.isCommissioned = true ∧
      isValidFriendlyName friendlyName = true := by
  unfold applyCommission at haccepted ⊢
  split at haccepted
  · cases haccepted
  rename_i hname
  rw [Bool.not_eq_true, Bool.not_eq_false'] at hname
  rw [hname, Bool.not_true, if_neg Bool.false_ne_true]
  split at haccepted
  · rename_i hstate
    rw [if_pos hstate]
    exact ⟨rfl, rfl, rfl⟩
  rename_i hstate
  rw [if_neg hstate]
  split at haccepted
  · rename_i hrename
    rw [if_pos hrename]
    exact ⟨rfl, hrename, rfl⟩
  · cases haccepted

/-- It can be read again at the next boot, whatever the Node was before. -/
def Held.applyCommission {identity : NodeIdentityStore} {friendlyName : List UInt8}
    (haccepted : (identity.applyCommission friendlyName).2 = true) : Held where
  toNodeIdentityStore := (identity.applyCommission friendlyName).1
  loadable := by
    obtain ⟨hname, hcommissioned, hvalid⟩ := applyCommission_accepted haccepted
    rw [isLoadable, hcommissioned, hname, hvalid, Bool.and_self, Bool.or_true]
  fits := by
    obtain ⟨hname, -, hvalid⟩ := applyCommission_accepted haccepted
    simp only [isValidFriendlyName, Bool.and_eq_true, decide_eq_true_eq] at hvalid
    rw [hname]
    exact hvalid.2

/-- They are the ones that are held. -/
theorem reached_iff (identity : NodeIdentityStore) :
    Reached identity ↔ identity.isLoadable = true ∧ identity.friendlyName.length < FRIENDLY_NAME_BUFFER_SIZE := by
  constructor
  · intro hreached
    induction hreached with
    | make | applyDecommission => exact ⟨rfl, by decide⟩
    | loadPersisted hload => exact (loadNvs_eq_some.mp hload).2
    | applyCommission friendlyName _ ih =>
      exact ⟨isLoadable_applyCommission ih.1 friendlyName, fits_applyCommission ih.2 friendlyName⟩
  · rintro ⟨hloadable, hfits⟩
    exact .loadPersisted (loadNvs_written ⟨identity, hloadable, hfits⟩ ⟨none, none, none⟩)

/-- The schema is the current one, or there is nothing that could be read under it. -/
def SchemaHarmless (nvs : Nvs) : Prop :=
  nvs.schema = some CURRENT_SCHEMA_VERSION ∨
    ∀ lifecycleState friendlyName, nvs.state.map NodeLifecycleState.ofByte = some lifecycleState →
      nvs.name = some friendlyName → friendlyName.length < FRIENDLY_NAME_BUFFER_SIZE →
      (mk lifecycleState friendlyName).isLoadable = false

/-- The state is the one that is there, or neither the old nor the new one can be read with
the name that is there. -/
def StateHarmless (identity : NodeIdentityStore) (nvs : Nvs) : Prop :=
  nvs.schema = some CURRENT_SCHEMA_VERSION ∧ nvs.state.map NodeLifecycleState.ofByte = some identity.lifecycleState ∨
    ∀ friendlyName, nvs.name = some friendlyName → friendlyName.length < FRIENDLY_NAME_BUFFER_SIZE →
      friendlyName = [] ∧ identity.isCommissioned = true ∧
        ¬(nvs.schema = some CURRENT_SCHEMA_VERSION ∧
          nvs.state.map NodeLifecycleState.ofByte = some .UNCOMMISSIONED)

theorem loadNvs_schema_written (nvs : Nvs) :
    loadNvs { nvs with schema := some CURRENT_SCHEMA_VERSION } = loadNvs nvs ↔ SchemaHarmless nvs := by
  rw [loadNvs_ext_iff]
  constructor
  · intro hsame
    by_cases hschema : nvs.schema = some CURRENT_SCHEMA_VERSION
    · exact .inl hschema
    · refine .inr fun lifecycleState friendlyName hstate hname hfits => ?_
      by_contra hloadable
      rw [Bool.not_eq_false] at hloadable
      have hpersisted := (hsame ⟨lifecycleState, friendlyName⟩ hloadable hfits).mp ⟨rfl, hstate, hname⟩
      exact hschema hpersisted.1
  · rintro (hschema | hunreadable) identity hloadable hfits
    · rw [← hschema]
    · constructor
      · rintro ⟨-, hstate, hname⟩
        rw [hunreadable _ _ hstate hname hfits] at hloadable
        cases hloadable
      · rintro ⟨-, hstate, hname⟩
        exact ⟨rfl, hstate, hname⟩

theorem isLoadable_of_empty {identity : NodeIdentityStore} (hname : identity.friendlyName = []) :
    identity.isLoadable = true ↔ identity.lifecycleState = .UNCOMMISSIONED := by
  simp [isLoadable, isValidFriendlyName, hname]

/-- Under the state of a held identity, any name that fits can be read but the empty name of
a commissioned Node. -/
theorem not_isLoadable_iff {identity : NodeIdentityStore} (hloadable : identity.isLoadable = true)
    {friendlyName : List UInt8} (hfits : friendlyName.length < FRIENDLY_NAME_BUFFER_SIZE) :
    (mk identity.lifecycleState friendlyName).isLoadable = false ↔
      friendlyName = [] ∧ identity.isCommissioned = true := by
  rcases ((isLoadable_iff identity).mp hloadable).1 with hlifecycle | hlifecycle
  · simp [isLoadable, isCommissioned, hlifecycle, isCommissionedLifecycle]
  · have hcommissioned : identity.lifecycleState ≠ .UNCOMMISSIONED := by
      intro huncommissioned
      rw [huncommissioned] at hlifecycle
      cases hlifecycle
    simp [isLoadable, isCommissioned, hlifecycle, hcommissioned, isValidFriendlyName, hfits]

theorem loadNvs_state_written (identity : Held) (nvs : Nvs) :
    loadNvs ⟨some CURRENT_SCHEMA_VERSION, some identity.lifecycleState.toByte, nvs.name⟩ = loadNvs nvs ↔
      StateHarmless identity.toNodeIdentityStore nvs := by
  rw [loadNvs_ext_iff]
  have hstate : (some identity.lifecycleState.toByte).map NodeLifecycleState.ofByte = some identity.lifecycleState := by
    simp
  constructor
  · intro hsame
    by_cases hheld : nvs.schema = some CURRENT_SCHEMA_VERSION ∧
        nvs.state.map NodeLifecycleState.ofByte = some identity.lifecycleState
    · exact .inl hheld
    refine .inr fun friendlyName hname hfits => ?_
    have hunreadable : (mk identity.lifecycleState friendlyName).isLoadable = false := by
      by_contra hloadable
      rw [Bool.not_eq_false] at hloadable
      obtain ⟨hschema, hstate', -⟩ := (hsame ⟨_, friendlyName⟩ hloadable hfits).mp ⟨rfl, hstate, hname⟩
      exact hheld ⟨hschema, hstate'⟩
    obtain ⟨rfl, hcommissioned⟩ := (not_isLoadable_iff identity.loadable hfits).mp hunreadable
    refine ⟨rfl, hcommissioned, ?_⟩
    rintro ⟨hschema, huncommissioned⟩
    have hpersisted := (hsame ⟨.UNCOMMISSIONED, []⟩ rfl hfits).mpr ⟨hschema, huncommissioned, hname⟩
    have hlifecycle : identity.lifecycleState = .UNCOMMISSIONED := Option.some_inj.mp (hstate.symm.trans hpersisted.2.1)
    rw [isCommissioned, hlifecycle] at hcommissioned
    cases hcommissioned
  · rintro (⟨hschema, hheld⟩ | hunreadable) other hloadable hfits
    · simp only [IsPersisted, hschema, hheld, hstate]
    constructor
    · rintro ⟨-, hother, hname⟩
      obtain ⟨hempty, hcommissioned, -⟩ := hunreadable _ hname hfits
      have hlifecycle := Option.some_inj.mp (hstate.symm.trans hother)
      rw [isLoadable_of_empty hempty, ← hlifecycle] at hloadable
      rw [isCommissioned, hloadable] at hcommissioned
      cases hcommissioned
    · rintro ⟨hschema, hother, hname⟩
      obtain ⟨hempty, -, hold⟩ := hunreadable _ hname hfits
      rw [isLoadable_of_empty hempty] at hloadable
      exact absurd ⟨hschema, hloadable ▸ hother⟩ hold

/-- A failure harms nothing before the first key is written. Later it depends on what the keys
written so far mean together with the old ones. -/
def Harmless (done : Nat) (identity : NodeIdentityStore) (nvs : Nvs) : Prop :=
  (done = 2 → SchemaHarmless nvs) ∧ (done = 3 → StateHarmless identity nvs) ∧ (done = 4 → IsPersisted identity nvs)

theorem allOrNothing_persistNvs (done : Nat) (identity : Held) (nvs : Nvs) :
    KeyedWrites.AllOrNothing loadNvs identity.toNodeIdentityStore nvs
        (persistNvs done identity.toNodeIdentityStore nvs) ↔
      Harmless done identity.toNodeIdentityStore nvs := by
  have hwritten := loadNvs_written identity nvs
  simp only [persistNvs, Harmless]
  rw [KeyedWrites.allOrNothing_committed hwritten, loadNvs_eq_some, ← loadNvs_schema_written,
    ← loadNvs_state_written]
  refine (and_congr ?_ (by simp [writes, identity.loadable, identity.fits])).trans and_assoc
  match done with
  | 0 | 1 => simp [writes]
  | 2 => simp [writes]
  | 3 => simp [writes]
  | done + 4 => simp [writes]

end NodeIdentityStore

end kilowatts
