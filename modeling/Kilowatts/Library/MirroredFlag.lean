import Mathlib.Data.List.Basic

/-!
A controller that mirrors a flag of a device. Its commands set or clear the flag and the
device answers with the flag, but commands and answers may be lost.
-/

inductive FlagCommand (Id : Type) where
  | set (id : Id)
  | clear
deriving DecidableEq

/-- The controller awaits the answer to at most one command, the last that sets the flag. -/
structure MirroredFlag (Id : Type) where
  believed : Bool
  awaited : Option Id
  actual : Bool
  commands : List (FlagCommand Id)
  answers : List (Id × Bool)

namespace MirroredFlag

variable {Id : Type}

def initial : MirroredFlag Id := ⟨false, none, false, [], []⟩

/-- The steps that keep the two sides together. Commands are handled in the order in which they
were sent. What is lost is a command that sets the flag, or a message that changes nothing. -/
inductive Step : MirroredFlag Id → MirroredFlag Id → Prop where
  | request (before : MirroredFlag Id) (id : Id) (sent : Bool) (hfree : before.believed = true ∨ before.awaited = none)
      (hcommands : .set id ∉ before.commands) (hanswers : ∀ flag, (id, flag) ∉ before.answers) :
      Step before { before with
        awaited := some id
        commands := before.commands ++ if sent then [.set id] else [] }
  | release (before : MirroredFlag Id) (sent : Bool)
      (hsent : sent = true ∨ before.actual = false ∧ before.commands = []) :
      Step before { before with
        believed := false
        awaited := none
        commands := before.commands ++ if sent then [.clear] else [] }
  | set (before : MirroredFlag Id) (id : Id) (later : List (FlagCommand Id)) (actual answered : Bool)
      (hcommands : before.commands = .set id :: later) (hactual : actual = true ∨ actual = before.actual)
      (hanswered : answered = true ∨ before.awaited ≠ some id ∨ actual = before.believed) :
      Step before { before with
        actual
        commands := later
        answers := before.answers ++ if answered then [(id, actual)] else [] }
  | clear (before : MirroredFlag Id) (later : List (FlagCommand Id)) (hcommands : before.commands = .clear :: later) :
      Step before { before with actual := false, commands := later }
  | setLost (before : MirroredFlag Id) (id : Id) (earlier later : List (FlagCommand Id))
      (hcommands : before.commands = earlier ++ .set id :: later) :
      Step before { before with commands := earlier ++ later }
  | clearLost (before : MirroredFlag Id) (hcommands : before.commands = [.clear]) (hactual : before.actual = false) :
      Step before { before with commands := [] }
  | answer (before : MirroredFlag Id) (id : Id) (flag : Bool) (earlier later : List (Id × Bool))
      (hanswers : before.answers = earlier ++ (id, flag) :: later) (hawaited : before.awaited = some id) :
      Step before { before with believed := flag, awaited := none, answers := earlier ++ later }
  | answerLost (before : MirroredFlag Id) (id : Id) (flag : Bool) (earlier later : List (Id × Bool))
      (hanswers : before.answers = earlier ++ (id, flag) :: later)
      (hlost : before.awaited ≠ some id ∨ flag = before.believed) :
      Step before { before with answers := earlier ++ later }

/-- The commands in flight are the settled ones, and at most the awaited one after them. -/
structure InFlight (state : MirroredFlag Id) (settled awaited : List (FlagCommand Id)) : Prop where
  commands : state.commands = settled ++ awaited
  awaited : awaited = [] ∨ ∃ id, state.awaited = some id ∧ awaited = [.set id]
  settled : ∀ id, state.awaited = some id → .set id ∉ settled

/-- What the settled commands leave of the flag is what the controller believes, unless the
answer that it awaits is on its way. -/
inductive Agrees (state : MirroredFlag Id) (settled : List (FlagCommand Id)) : Prop where
  | on (hbelieved : state.believed = true) (hactual : state.actual = true) (hclear : .clear ∉ settled)
  | off (hbelieved : state.believed = false) (hactual : state.actual = false) (hsettled : settled = [])
  | cleared (hbelieved : state.believed = false) (front : List (FlagCommand Id))
      (hsettled : settled = front ++ [.clear])
  | answered (hbelieved : state.believed = false) (id : Id) (hawaited : state.awaited = some id)
      (hanswer : (id, state.actual) ∈ state.answers)

structure Mirrored (state : MirroredFlag Id) : Prop where
  agrees : ∃ settled awaited, InFlight state settled awaited ∧ Agrees state settled
  answers : ∀ id flag, state.awaited = some id → (id, flag) ∈ state.answers →
    state.commands = [] ∧ flag = state.actual

theorem mirrored_initial : Mirrored (initial : MirroredFlag Id) := by
  refine ⟨⟨[], [], ⟨rfl, .inl rfl, fun _ _ => List.not_mem_nil⟩, .off rfl rfl rfl⟩, ?_⟩
  intro id flag hawaited
  cases hawaited

theorem ne_nil_of_eq_append_cons {α : Type} {list front rest : List α} {x : α} (hlist : list = front ++ x :: rest) :
    list ≠ [] :=
  hlist ▸ List.append_ne_nil_of_right_ne_nil front (List.cons_ne_nil x rest)

/-- Once nothing is in flight, the two sides agree. -/
theorem Mirrored.believed_eq {state : MirroredFlag Id} (hmirrored : Mirrored state) (hcommands : state.commands = [])
    (hanswers : state.answers = []) : state.believed = state.actual := by
  obtain ⟨⟨settled, awaited, hflight, hagrees⟩, -⟩ := hmirrored
  have hsettled : settled = [] := (List.append_eq_nil_iff.mp (hflight.commands.symm.trans hcommands)).1
  cases hagrees with
  | on hbelieved hactual => rw [hbelieved, hactual]
  | off hbelieved hactual => rw [hbelieved, hactual]
  | cleared hbelieved front hcleared =>
    exact absurd hsettled (ne_nil_of_eq_append_cons hcleared)
  | answered hbelieved id hawaited hanswer =>
    rw [hanswers] at hanswer
    cases hanswer

/-- While a command is in flight, the awaited answer is not. -/
theorem Mirrored.not_answered {state : MirroredFlag Id} (hmirrored : Mirrored state) (hcommands : state.commands ≠ [])
    {id : Id} (hawaited : state.awaited = some id) (flag : Bool) : (id, flag) ∉ state.answers :=
  fun hanswer => hcommands (hmirrored.answers id flag hawaited hanswer).1

section InFlight

variable {state : MirroredFlag Id} {settled awaited : List (FlagCommand Id)}

/-- A command in flight is a settled one or the awaited one. -/
theorem InFlight.middle {command : FlagCommand Id} (hflight : InFlight state settled awaited)
    (earlier later : List (FlagCommand Id)) (hcommands : state.commands = earlier ++ command :: later) :
    (∃ rest, settled = earlier ++ command :: rest ∧ later = rest ++ awaited) ∨
      (∃ id, command = .set id ∧ state.awaited = some id ∧ settled = earlier ∧ later = []) := by
  have hsplit := hflight.commands.symm.trans hcommands
  obtain ⟨rest, hearlier, hawaited⟩ | ⟨rest, hsettled, hlater⟩ := List.append_eq_append_iff.mp hsplit
  · obtain hnone | ⟨id, hid, hsingle⟩ := hflight.awaited
    · exact absurd hnone (ne_nil_of_eq_append_cons hawaited)
    · rw [hsingle] at hawaited
      cases rest with
      | nil =>
        obtain ⟨rfl, rfl⟩ := List.cons.inj hawaited
        exact .inr ⟨id, rfl, hid, (List.append_nil settled).symm.trans hearlier.symm, rfl⟩
      | cons head tail =>
        exact absurd rfl (ne_nil_of_eq_append_cons (List.cons.inj hawaited).2)
  · cases rest with
    | nil =>
      obtain hnone | ⟨id, hid, hsingle⟩ := hflight.awaited
      · rw [hnone] at hlater
        cases hlater
      · rw [hsingle] at hlater
        obtain ⟨rfl, rfl⟩ := List.cons.inj hlater
        exact .inr ⟨id, rfl, hid, (hsettled.trans (List.append_nil earlier)), rfl⟩
    | cons head tail =>
      obtain ⟨rfl, rfl⟩ := List.cons.inj hlater
      exact .inl ⟨tail, hsettled, rfl⟩

end InFlight

/-- The last of some commands clears the flag: it is this one, or it comes after it. -/
theorem last_clear {front rest : List (FlagCommand Id)} (earlier : List (FlagCommand Id)) {command : FlagCommand Id}
    (hlast : front ++ [.clear] = earlier ++ command :: rest) :
    (command = .clear ∧ rest = []) ∨ ∃ middle, rest = middle ++ [.clear] := by
  obtain rfl | ⟨middle, last, rfl⟩ := List.eq_nil_or_concat' rest
  · exact .inl ⟨(List.cons.inj (List.append_inj_right' hlast rfl)).1.symm, rfl⟩
  · refine .inr ⟨middle, ?_⟩
    have hconcat : front ++ [.clear] = (earlier ++ command :: middle) ++ [last] := by
      rw [hlast, List.append_assoc, List.cons_append]
    rw [(List.cons.inj (List.append_inj_right' hconcat rfl)).1]

section Step

variable {before : MirroredFlag Id}

theorem Mirrored.request (hmirrored : Mirrored before) {id : Id} (sent : Bool)
    (hfree : before.believed = true ∨ before.awaited = none) (hcommands : .set id ∉ before.commands)
    (hanswers : ∀ flag, (id, flag) ∉ before.answers) :
    Mirrored { before with
      awaited := some id
      commands := before.commands ++ if sent then [.set id] else [] } := by
  obtain ⟨⟨settled, awaited, hflight, hagrees⟩, -⟩ := hmirrored
  have hnothing : before.awaited = none → before.commands = settled := by
    intro hnone
    rw [hflight.commands]
    obtain hempty | ⟨other, hother, -⟩ := hflight.awaited
    · rw [hempty, List.append_nil]
    · rw [hnone] at hother
      cases hother
  constructor
  · refine ⟨before.commands, _, ⟨rfl, ?_, ?_⟩, ?_⟩
    · cases sent with
      | true => exact .inr ⟨id, rfl, rfl⟩
      | false => exact .inl rfl
    · intro other hother
      obtain rfl := Option.some.inj hother
      exact hcommands
    · cases hagrees with
      | on hbelieved hactual hclear =>
        refine .on hbelieved hactual ?_
        rw [hflight.commands, List.mem_append, not_or]
        refine ⟨hclear, ?_⟩
        obtain hempty | ⟨other, -, hsingle⟩ := hflight.awaited
        · rw [hempty]
          exact List.not_mem_nil
        · simp [hsingle]
      | off hbelieved hactual hsettled =>
        have hnone := hfree.resolve_left (by simp [hbelieved])
        exact .off hbelieved hactual ((hnothing hnone).trans hsettled)
      | cleared hbelieved front hsettled =>
        have hnone := hfree.resolve_left (by simp [hbelieved])
        exact .cleared hbelieved front ((hnothing hnone).trans hsettled)
      | answered hbelieved other hother hanswer =>
        rw [hfree.resolve_left (by simp [hbelieved])] at hother
        cases hother
  · intro other flag hother hanswer
    obtain rfl := Option.some.inj hother
    exact absurd hanswer (hanswers flag)

theorem Mirrored.release (sent : Bool) (hsent : sent = true ∨ before.actual = false ∧ before.commands = []) :
    Mirrored { before with
      believed := false
      awaited := none
      commands := before.commands ++ if sent then [.clear] else [] } := by
  refine ⟨⟨_, [], ⟨(List.append_nil _).symm, .inl rfl, fun _ hnone => nomatch hnone⟩, ?_⟩, fun _ _ hnone => nomatch hnone⟩
  cases sent with
  | true => exact .cleared rfl before.commands rfl
  | false =>
    obtain ⟨hactual, hcommands⟩ := hsent.resolve_left Bool.false_ne_true
    refine .off rfl hactual ?_
    rw [hcommands]
    rfl

theorem Mirrored.set (hmirrored : Mirrored before) {id : Id} {later : List (FlagCommand Id)} {actual answered : Bool}
    (hcommands : before.commands = .set id :: later) (hactual : actual = true ∨ actual = before.actual)
    (hanswered : answered = true ∨ before.awaited ≠ some id ∨ actual = before.believed) :
    Mirrored { before with
      actual
      commands := later
      answers := before.answers ++ if answered then [(id, actual)] else [] } := by
  have hbusy : before.commands ≠ [] := hcommands ▸ List.cons_ne_nil _ _
  have hnew : ∀ {other flag}, before.awaited = some other →
      (other, flag) ∈ before.answers ++ (if answered then [(id, actual)] else []) →
      answered = true ∧ other = id ∧ flag = actual := by
    intro other flag hother hanswer
    have hfresh := (List.mem_append.mp hanswer).resolve_left (hmirrored.not_answered hbusy hother flag)
    cases answered with
    | true => exact ⟨rfl, Prod.mk.inj (List.mem_singleton.mp hfresh)⟩
    | false => cases hfresh
  have hsilent : ∀ other, before.awaited = some other → (other, before.actual) ∉ before.answers :=
    fun other hother => hmirrored.not_answered hbusy hother before.actual
  obtain ⟨⟨settled, awaited, hflight, hagrees⟩, -⟩ := hmirrored
  obtain ⟨rest, hsettled, hlater⟩ | ⟨other, hcommand, hother, hsettled, hlater⟩ := hflight.middle [] later hcommands
  · -- the command is a settled one: its answer is not awaited
    have hunawaited : before.awaited ≠ some id := by
      intro hid
      exact hflight.settled id hid (hsettled ▸ List.mem_cons_self)
    constructor
    · refine ⟨rest, awaited, ⟨hlater, hflight.awaited, ?_⟩, ?_⟩
      · intro other hother hmem
        exact hflight.settled other hother (hsettled ▸ List.mem_cons_of_mem _ hmem)
      · cases hagrees with
        | on hbelieved hold hclear =>
          refine .on hbelieved (hactual.elim (fun hset => hset) fun hsame => hsame.trans hold) ?_
          exact fun hmem => hclear (hsettled ▸ List.mem_cons_of_mem _ hmem)
        | off hbelieved hold hnone => rw [hnone] at hsettled; cases hsettled
        | cleared hbelieved front hlast =>
          obtain ⟨hcommand, -⟩ | ⟨middle, hmiddle⟩ := last_clear [] (hlast.symm.trans hsettled)
          · cases hcommand
          · exact .cleared hbelieved middle hmiddle
        | answered hbelieved other hother hanswer => exact absurd hanswer (hsilent other hother)
    · intro other flag hother hanswer
      obtain ⟨-, rfl, -⟩ := hnew hother hanswer
      exact absurd hother hunawaited
  · -- the command is the awaited one, and the last
    have hsame : id = other := FlagCommand.set.inj hcommand
    subst hsame
    constructor
    · refine ⟨[], [], ⟨hlater, .inl rfl, fun _ _ => List.not_mem_nil⟩, ?_⟩
      cases hagrees with
      | on hbelieved hold hclear =>
        exact .on hbelieved (hactual.elim (fun hset => hset) fun hsame => hsame.trans hold) List.not_mem_nil
      | off hbelieved hold hnone =>
        cases answered with
        | true => exact .answered hbelieved id hother (List.mem_append_right _ (List.mem_singleton.mpr rfl))
        | false =>
          have hsame := (hanswered.resolve_left Bool.false_ne_true).resolve_left (not_not.mpr hother)
          exact .off hbelieved (hsame.trans hbelieved) rfl
      | cleared hbelieved front hlast =>
        exact absurd hsettled (ne_nil_of_eq_append_cons hlast)
      | answered hbelieved other hother hanswer => exact absurd hanswer (hsilent other hother)
    · intro other flag hother hanswer
      exact ⟨hlater, (hnew hother hanswer).2.2⟩

theorem Mirrored.clear (hmirrored : Mirrored before) {later : List (FlagCommand Id)}
    (hcommands : before.commands = .clear :: later) :
    Mirrored { before with actual := false, commands := later } := by
  have hbusy : before.commands ≠ [] := hcommands ▸ List.cons_ne_nil _ _
  have hsilent : ∀ other flag, before.awaited = some other → (other, flag) ∉ before.answers :=
    fun other flag hother => hmirrored.not_answered hbusy hother flag
  obtain ⟨⟨settled, awaited, hflight, hagrees⟩, -⟩ := hmirrored
  obtain ⟨rest, hsettled, hlater⟩ | ⟨other, hcommand, -⟩ := hflight.middle [] later hcommands
  · refine ⟨⟨rest, awaited, ⟨hlater, hflight.awaited, ?_⟩, ?_⟩,
      fun other flag hother hanswer => absurd hanswer (hsilent other flag hother)⟩
    · intro other hother hmem
      exact hflight.settled other hother (hsettled ▸ List.mem_cons_of_mem _ hmem)
    · cases hagrees with
      | on hbelieved hold hclear => exact absurd (hsettled ▸ List.mem_cons_self) hclear
      | off hbelieved hold hnone =>
        rw [hnone] at hsettled
        cases hsettled
      | cleared hbelieved front hlast =>
        obtain ⟨-, hrest⟩ | ⟨middle, hmiddle⟩ := last_clear [] (hlast.symm.trans hsettled)
        · exact .off hbelieved rfl hrest
        · exact .cleared hbelieved middle hmiddle
      | answered hbelieved other hother hanswer => exact absurd hanswer (hsilent other _ hother)
  · cases hcommand

theorem Mirrored.set_lost (hmirrored : Mirrored before) {id : Id} {earlier later : List (FlagCommand Id)}
    (hcommands : before.commands = earlier ++ .set id :: later) :
    Mirrored { before with commands := earlier ++ later } := by
  have hbusy : before.commands ≠ [] := ne_nil_of_eq_append_cons hcommands
  have hsilent : ∀ other flag, before.awaited = some other → (other, flag) ∉ before.answers :=
    fun other flag hother => hmirrored.not_answered hbusy hother flag
  obtain ⟨⟨settled, awaited, hflight, hagrees⟩, -⟩ := hmirrored
  refine ⟨?_, fun other flag hother hanswer => absurd hanswer (hsilent other flag hother)⟩
  obtain ⟨rest, hsettled, hlater⟩ | ⟨other, -, -, hsettled, hlater⟩ := hflight.middle earlier later hcommands
  · refine ⟨earlier ++ rest, awaited, ⟨?_, hflight.awaited, ?_⟩, ?_⟩
    · rw [hlater, List.append_assoc]
    · intro other hother hmem
      refine hflight.settled other hother ?_
      rw [hsettled, List.mem_append]
      exact (List.mem_append.mp hmem).imp_right (List.mem_cons_of_mem _)
    · cases hagrees with
      | on hbelieved hactual hclear =>
        refine .on hbelieved hactual fun hmem => hclear ?_
        rw [hsettled, List.mem_append]
        exact (List.mem_append.mp hmem).imp_right (List.mem_cons_of_mem _)
      | off hbelieved hactual hnone =>
        exact absurd hnone (ne_nil_of_eq_append_cons hsettled)
      | cleared hbelieved front hlast =>
        obtain ⟨hcommand, -⟩ | ⟨middle, hmiddle⟩ := last_clear earlier (hlast.symm.trans hsettled)
        · cases hcommand
        · exact .cleared hbelieved (earlier ++ middle) (by rw [hmiddle, List.append_assoc])
      | answered hbelieved other hother hanswer => exact absurd hanswer (hsilent other _ hother)
  · refine ⟨settled, [], ⟨?_, .inl rfl, hflight.settled⟩, ?_⟩
    · rw [hlater, hsettled]
    · cases hagrees with
      | on hbelieved hactual hclear => exact .on hbelieved hactual hclear
      | off hbelieved hactual hnone => exact .off hbelieved hactual hnone
      | cleared hbelieved front hlast => exact .cleared hbelieved front hlast
      | answered hbelieved other hother hanswer => exact .answered hbelieved other hother hanswer

theorem Mirrored.clear_lost (hmirrored : Mirrored before) (hcommands : before.commands = [.clear])
    (hactual : before.actual = false) : Mirrored { before with commands := [] } := by
  have hcleared := hmirrored.clear hcommands
  rwa [← hactual] at hcleared

theorem Mirrored.answer (hmirrored : Mirrored before) {id : Id} {flag : Bool} {earlier later : List (Id × Bool)}
    (hanswers : before.answers = earlier ++ (id, flag) :: later) (hawaited : before.awaited = some id) :
    Mirrored { before with believed := flag, awaited := none, answers := earlier ++ later } := by
  obtain ⟨hcommands, rfl⟩ := hmirrored.answers id flag hawaited (by simp [hanswers])
  refine ⟨⟨[], [], ⟨hcommands, .inl rfl, fun _ _ => List.not_mem_nil⟩, ?_⟩, fun _ _ hnone => nomatch hnone⟩
  cases before.actual with
  | true => exact .on rfl rfl List.not_mem_nil
  | false => exact .off rfl rfl rfl

theorem Mirrored.answer_lost (hmirrored : Mirrored before) {id : Id} {flag : Bool} {earlier later : List (Id × Bool)}
    (hanswers : before.answers = earlier ++ (id, flag) :: later)
    (hlost : before.awaited ≠ some id ∨ flag = before.believed) :
    Mirrored { before with answers := earlier ++ later } := by
  have hkept : ∀ answer, answer ∈ earlier ++ later → answer ∈ before.answers := by
    intro answer hanswer
    rw [hanswers, List.mem_append]
    exact (List.mem_append.mp hanswer).imp_right (List.mem_cons_of_mem _)
  refine ⟨?_, fun other flag hother hanswer => hmirrored.answers other flag hother (hkept _ hanswer)⟩
  obtain ⟨settled, awaited, hflight, hagrees⟩ := hmirrored.agrees
  refine ⟨settled, awaited, ⟨hflight.commands, hflight.awaited, hflight.settled⟩, ?_⟩
  cases hagrees with
  | on hbelieved hactual hclear => exact .on hbelieved hactual hclear
  | off hbelieved hactual hnone => exact .off hbelieved hactual hnone
  | cleared hbelieved front hlast => exact .cleared hbelieved front hlast
  | answered hbelieved other hother hanswer =>
    rw [hanswers, List.mem_append, List.mem_cons] at hanswer
    by_cases hsame : (other, before.actual) = (id, flag)
    · -- the lost answer tells the controller what it believes
      obtain ⟨rfl, hflag⟩ := Prod.mk.inj hsame
      have htold := hlost.resolve_left (not_not.mpr hother)
      have hcommands := (hmirrored.answers other flag hother (by simp [hanswers])).1
      have hsettled : settled = [] := (List.append_eq_nil_iff.mp (hflight.commands.symm.trans hcommands)).1
      exact .off hbelieved (hflag.trans (htold.trans hbelieved)) hsettled
    · refine .answered hbelieved other hother (List.mem_append.mpr ?_)
      exact hanswer.imp_right fun hmem => hmem.resolve_left hsame

/-- Every step keeps the two sides together. -/
theorem Mirrored.step {after : MirroredFlag Id} (hmirrored : Mirrored before) (hstep : Step before after) :
    Mirrored after := by
  cases hstep with
  | request id sent hfree hcommands hanswers => exact hmirrored.request sent hfree hcommands hanswers
  | release sent hsent => exact Mirrored.release sent hsent
  | set id later actual answered hcommands hactual hanswered => exact hmirrored.set hcommands hactual hanswered
  | clear later hcommands => exact hmirrored.clear hcommands
  | setLost id earlier later hcommands => exact hmirrored.set_lost hcommands
  | clearLost hcommands hactual => exact hmirrored.clear_lost hcommands hactual
  | answer id flag earlier later hanswers hawaited => exact hmirrored.answer hanswers hawaited
  | answerLost id flag earlier later hanswers hlost => exact hmirrored.answer_lost hanswers hlost

end Step

end MirroredFlag
