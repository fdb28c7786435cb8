import Kilowatts.LoadManager.Load

namespace kilowatts

/-- The loads of one planning cycle, sorted into the three groups and held by
pointer. -/
structure LoadFilter (Pointer : Type) where
  fixedOnLoads : List Pointer
  fixedOffLoads : List Pointer
  autoCandidateLoads : List Pointer

namespace LoadFilter

variable {Pointer : Type}

def reset : LoadFilter Pointer := ⟨[], [], []⟩

/-- Classifies the load behind `pointer`. A mode that is none of the four
declared ones is not classified. -/
def addLoad (filter : LoadFilter Pointer) (pointer : Pointer) (load : Load) : LoadFilter Pointer × Bool :=
  if load.mode = .FIXED_ON then ({ filter with fixedOnLoads := filter.fixedOnLoads ++ [pointer] }, true)
  else if load.mode = .FIXED_OFF then ({ filter with fixedOffLoads := filter.fixedOffLoads ++ [pointer] }, true)
  else if load.isAuto then ({ filter with autoCandidateLoads := filter.autoCandidateLoads ++ [pointer] }, true)
  else (filter, false)

/-- Adding a list of loads one after the other sorts it by mode, keeping its
order inside each group. -/
theorem foldl_addLoad (loads : List (Pointer × Load)) (filter : LoadFilter Pointer) :
    loads.foldl (fun filter entry => (filter.addLoad entry.1 entry.2).1) filter =
      { fixedOnLoads := filter.fixedOnLoads ++ (loads.filter (·.2.mode = .FIXED_ON)).map Prod.fst
        fixedOffLoads := filter.fixedOffLoads ++ (loads.filter (·.2.mode = .FIXED_OFF)).map Prod.fst
        autoCandidateLoads := filter.autoCandidateLoads ++ (loads.filter (·.2.isAuto)).map Prod.fst } := by
  induction loads generalizing filter with
  | nil => simp
  | cons entry loads ih =>
    rw [List.foldl_cons, ih]
    cases hmode : entry.2.mode <;> simp [addLoad, Load.isAuto, hmode]

end LoadFilter

end kilowatts
