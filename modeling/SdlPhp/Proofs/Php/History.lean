import SdlPhp.Proofs.Php.Nesting

/-!
# Histories of declarations

Declarations are set up by calls, which may be mixed in any way and with any printing between them.
What a declaration is in the end is read off the calls on it (`Declaration.after_eq`): it has what
was added, in the order of the calls, and for every other part what was set last. Calls on one
declaration do not touch the others (`Declarations.get?_after`). So two histories with the same
calls in this sense lead to the same texts. Main statement: `texts_of_histories`.
-/

namespace SdlPhp.Php

/-! ## What calls say -/

namespace Call

@[simp]
def member? : Call → Option Member
  | addMember m => some m
  | _ => none

@[simp]
def method? : Call → Option Method
  | addMethod m => some m
  | _ => none

@[simp]
def nested? : Call → Option String
  | nest id => some id
  | _ => none

@[simp]
def annotations? : Call → Option (List String)
  | annotate annotations => some annotations
  | _ => none

@[simp]
def parents? : Call → Option (List String)
  | extend names => some names
  | _ => none

@[simp]
def interfaces? : Call → Option (List String)
  | implement names => some names
  | _ => none

@[simp]
def access? : Call → Option Access
  | setAccess access => some access
  | _ => none

@[simp]
def name? : Call → Option String
  | setName name => some name
  | _ => none

@[simp]
def block? : Call → Option (Option String)
  | setBlock text => some text
  | _ => none

/-- The kind that is set; a word that names none sets nothing. -/
@[simp]
def kind? : Call → Option DeclarationKind
  | setKind word => DeclarationKind.ofText? word
  | _ => none

/-- The description that is set; an empty one sets nothing. -/
@[simp]
def description? : Call → Option String
  | setComment description => if description.isEmpty then none else some description
  | _ => none

end Call

/-- What the last of the calls sets that set this part at all. -/
def lastSet {α : Type} (part : Call → Option α) (calls : List Call) : Option α :=
  (calls.filterMap part).getLast?

/-- The two sequences of calls add the same in the same order, and set the same last. -/
structure SameCalls (cs ds : List Call) : Prop where
  members : cs.filterMap Call.member? = ds.filterMap Call.member?
  methods : cs.filterMap Call.method? = ds.filterMap Call.method?
  nested : cs.filterMap Call.nested? = ds.filterMap Call.nested?
  annotations : lastSet Call.annotations? cs = lastSet Call.annotations? ds
  parents : lastSet Call.parents? cs = lastSet Call.parents? ds
  interfaces : lastSet Call.interfaces? cs = lastSet Call.interfaces? ds
  access : lastSet Call.access? cs = lastSet Call.access? ds
  name : lastSet Call.name? cs = lastSet Call.name? ds
  block : lastSet Call.block? cs = lastSet Call.block? ds
  kind : lastSet Call.kind? cs = lastSet Call.kind? ds
  description : lastSet Call.description? cs = lastSet Call.description? ds
  isFinal : Call.makeFinal ∈ cs ↔ Call.makeFinal ∈ ds
  isStatic : Call.makeStatic ∈ cs ↔ Call.makeStatic ∈ ds

/-! ## One declaration -/

namespace Declaration

/-- The declaration behind a call; one that fails leaves it as it is. -/
def attempt (d : Declaration) (c : Call) : Declaration :=
  match d.apply c with
  | .ok e => e
  | .error _ => d

/-- The declaration behind some calls. -/
def after (d : Declaration) (calls : List Call) : Declaration := calls.foldl attempt d

/-- Of some calls and one more the last one counts if it sets the part. -/
theorem lastSet_append {α : Type} (part : Call → Option α) (cs : List Call) (c : Call) :
    lastSet part (cs ++ [c]) = (part c).or (lastSet part cs) := by
  unfold lastSet
  cases h : part c <;> simp [List.filterMap_append, h]

/-- The parts of a declaration behind some calls. -/
theorem after_eq (d : Declaration) (calls : List Call) :
    d.after calls =
      { indent := d.indent
        name := (lastSet Call.name? calls).or d.name
        parents := (lastSet Call.parents? calls).getD d.parents
        interfaces := (lastSet Call.interfaces? calls).getD d.interfaces
        kind := (lastSet Call.kind? calls).or d.kind
        access := (lastSet Call.access? calls).getD d.access
        isFinal := d.isFinal || calls.contains .makeFinal
        isStatic := d.isStatic || calls.contains .makeStatic
        block := (lastSet Call.block? calls).getD d.block
        comment := ((lastSet Call.description? calls).map docComment).getD d.comment
        annotations := (lastSet Call.annotations? calls).getD d.annotations
        members := d.members ++ calls.filterMap Call.member?
        methods := d.methods ++ calls.filterMap Call.method?
        nested := d.nested ++ calls.filterMap Call.nested? } := by
  induction calls using List.reverseRecOn with
  | nil => simp [after, lastSet]
  | append_singleton calls c ih =>
    have hlast : d.after (calls ++ [c]) = (d.after calls).attempt c := by
      unfold after
      rw [List.foldl_append]
      rfl
    rw [hlast, ih]
    simp only [lastSet_append, List.filterMap_append]
    cases c with
    | setKind word =>
      cases h : DeclarationKind.ofText? word <;>
        simp [attempt, apply, h]
    | setComment description =>
      cases h : description.isEmpty <;>
        simp [attempt, apply, h]
    | _ => simp [attempt, apply]

/-- Of its history nothing counts but what the calls add and what they set last. -/
theorem after_congr (d : Declaration) {cs ds : List Call} (h : SameCalls cs ds) :
    d.after cs = d.after ds := by
  have isFinal : cs.contains .makeFinal = ds.contains .makeFinal := by
    rw [Bool.eq_iff_iff, List.contains_iff_mem, List.contains_iff_mem]
    exact h.isFinal
  have isStatic : cs.contains .makeStatic = ds.contains .makeStatic := by
    rw [Bool.eq_iff_iff, List.contains_iff_mem, List.contains_iff_mem]
    exact h.isStatic
  rw [after_eq, after_eq, h.members, h.methods, h.nested, h.annotations, h.parents, h.interfaces,
    h.access, h.name, h.block, h.kind, h.description, isFinal, isStatic]

end Declaration

/-! ## Tables -/

/-- What is done with the declarations of a table: one of them is called, or is printed. -/
inductive Event
  | call (id : String) (c : Call)
  | print (id : String)
  deriving DecidableEq, Repr

/-- The event changes nothing: a text is printed, a word names no kind of declaration, or a
description is empty. -/
def Event.isIdle : Event → Bool
  | call _ (.setKind word) => (DeclarationKind.ofText? word).isNone
  | call _ (.setComment description) => description.isEmpty
  | call _ _ => false
  | print _ => true

/-- The call of this event, if it is on this declaration. -/
def Event.callOn? (id : String) : Event → Option Call
  | call called c => if called = id then some c else none
  | print _ => none

/-- The calls on one of the declarations. -/
def callsOn (id : String) (events : List Event) : List Call := events.filterMap (Event.callOn? id)

theorem callsOn_cons (id : String) (e : Event) (es : List Event) :
    callsOn id (e :: es) = (e.callOn? id).toList ++ callsOn id es := by
  unfold callsOn
  cases h : e.callOn? id <;> simp [h]

namespace Declarations

variable {t u : Declarations} {es fs : List Event} {id : String}

/-- The table behind an event; a call that fails leaves it as it is, and so does printing. -/
def step (t : Declarations) : Event → Declarations
  | .call id c =>
    match t.apply id c with
    | .ok u => u
    | .error _ => t
  | .print _ => t

/-- The table behind some events. -/
def after (t : Declarations) (events : List Event) : Declarations := events.foldl step t

section Step

variable {d e : Declaration} {c : Call}

theorem step_call_none (h : t.get? id = none) (c : Call) : t.step (.call id c) = t := by
  simp [step, apply, h]

theorem step_call_error {fault : KindFault} (h : t.get? id = some d)
    (hc : d.apply c = .error fault) : t.step (.call id c) = t := by
  simp [step, apply, h, hc, Except.map]

theorem step_call_ok (h : t.get? id = some d) (hc : d.apply c = .ok e) :
    t.step (.call id c) = t.put id e := by
  simp [step, apply, h, hc, Except.map]

/-- The declaration that is called is the one behind the call, and all others are as before. -/
theorem get?_step_call (t : Declarations) (called : String) (c : Call) (id : String) :
    (t.step (.call called c)).get? id =
      if called = id then (t.get? id).map (·.attempt c) else t.get? id := by
  cases hd : t.get? called with
  | none =>
    rw [step_call_none hd]
    split
    · rename_i heq
      rw [← heq, hd]
      rfl
    · rfl
  | some d =>
    cases hc : d.apply c with
    | error fault =>
      have hattempt : d.attempt c = d := by simp [Declaration.attempt, hc]
      rw [step_call_error hd hc]
      split
      · rename_i heq
        rw [← heq, hd, Option.map_some, hattempt]
      · rfl
    | ok e =>
      have hattempt : d.attempt c = e := by simp [Declaration.attempt, hc]
      rw [step_call_ok hd hc]
      split
      · rename_i heq
        rw [← heq, hd, Option.map_some, hattempt, Entries.get?_put_self]
      · rename_i hne
        exact Entries.get?_put_of_ne t e hne

theorem keys_step (t : Declarations) (e : Event) : (t.step e).keys = t.keys := by
  cases e with
  | print id => rfl
  | call id c =>
    cases hd : t.get? id with
    | none => rw [step_call_none hd]
    | some d =>
      cases hc : d.apply c with
      | error fault => rw [step_call_error hd hc]
      | ok e =>
        rw [step_call_ok hd hc]
        apply Entries.keys_put_of_mem
        exact Entries.mem_keys_of_mem (Entries.mem_of_get?_eq_some hd)

/-- An idle event leaves the table as it is. -/
theorem step_of_isIdle (t : Declarations) {e : Event} (h : e.isIdle = true) : t.step e = t := by
  cases e with
  | print id => rfl
  | call id c =>
    cases hd : t.get? id with
    | none => exact step_call_none hd c
    | some d =>
      cases c with
      | setKind word =>
        have hword : DeclarationKind.ofText? word = none := Option.isNone_iff_eq_none.1 h
        have hfault : d.apply (.setKind word) = .error ⟨word⟩ := by
          simp [Declaration.apply, hword]
        exact step_call_error hd hfault
      | setComment description =>
        have hempty : description.isEmpty = true := h
        have hkept : d.apply (.setComment description) = .ok d := by
          simp [Declaration.apply, hempty]
        rw [step_call_ok hd hkept, Entries.put_of_get? hd]
      | _ => cases h

end Step

theorem keys_after (t : Declarations) (es : List Event) : (t.after es).keys = t.keys := by
  induction es generalizing t with
  | nil => rfl
  | cons e es ih => exact (ih (t.step e)).trans (keys_step t e)

/-- What becomes of a declaration is a matter of the calls on it alone. -/
theorem get?_after (t : Declarations) (es : List Event) (id : String) :
    (t.after es).get? id = (t.get? id).map (·.after (callsOn id es)) := by
  induction es generalizing t with
  | nil =>
    change t.get? id = (t.get? id).map fun d => d
    cases t.get? id <;> rfl
  | cons e es ih =>
    have hafter : (t.after (e :: es)).get? id = ((t.step e).after es).get? id := rfl
    rw [hafter, ih, callsOn_cons]
    cases e with
    | print other => rfl
    | call called c =>
      rw [get?_step_call, Event.callOn?]
      split
      · rw [Option.map_map]
        rfl
      · rfl

theorem after_filter_isIdle (t : Declarations) (es : List Event) :
    t.after (es.filter (!·.isIdle)) = t.after es := by
  induction es generalizing t with
  | nil => rfl
  | cons e es ih =>
    cases h : e.isIdle with
    | true =>
      rw [List.filter_cons_of_neg (by simp [h]), ih]
      unfold after
      rw [List.foldl_cons, step_of_isIdle t h]
    | false =>
      rw [List.filter_cons_of_pos (by simp [h])]
      exact ih (t.step e)

/-- The histories of two tables lead to the same text of a declaration, if they start from the same
and agree on the calls, for this declaration and all that stand in it in the end. -/
theorem Grounded.text?_after (hground : (t.after es).Grounded id)
    (h : ∀ j, (t.after es).Reaches id j →
      u.get? j = t.get? j ∧ SameCalls (callsOn j es) (callsOn j fs)) :
    ∃ s, (t.after es).text? id = some s ∧ (u.after fs).text? id = some s := by
  obtain ⟨s, hs⟩ := hground.exists_text
  refine ⟨s, hs, ?_⟩
  rw [hground.text?_congr, hs]
  intro j hj
  obtain ⟨hstart, hcalls⟩ := h j hj
  rw [get?_after, get?_after, hstart]
  apply congrArg (Option.map · _)
  funext d
  exact (d.after_congr hcalls).symm

/-- Two histories of declarations lead to the same texts if they agree on the calls on each of them,
as far as what is added and what is set last go. Of one declaration this is so if they agree for it
and all that stand in it. Events that are idle do not count. -/
theorem texts_of_histories (t u : Declarations) (es fs : List Event) :
    ((t.after es).WellNested → (∀ id ∈ t.keys, SameCalls (callsOn id es) (callsOn id fs)) →
      ∀ id ∈ t.keys, ∃ s, (t.after es).text? id = some s ∧ (t.after fs).text? id = some s) ∧
    (∀ id, (t.after es).Grounded id →
      (∀ j, (t.after es).Reaches id j →
        u.get? j = t.get? j ∧ SameCalls (callsOn j es) (callsOn j fs)) →
      ∃ s, (t.after es).text? id = some s ∧ (u.after fs).text? id = some s) ∧
    t.after (es.filter (!·.isIdle)) = t.after es := by
  refine ⟨?_, fun id => Grounded.text?_after, after_filter_isIdle t es⟩
  intro hnested hcalls id hid
  have hground : (t.after es).Grounded id := hnested.grounded ((keys_after t es).symm ▸ hid)
  apply hground.text?_after
  intro j hj
  have hkey : j ∈ t.keys := keys_after t es ▸ hground.present j hj
  exact ⟨rfl, hcalls j hkey⟩

/-- An inner declaration that is changed before and after it is nested, twice, with a word that
names no kind, an empty description and a printing between the calls. -/
theorem texts_of_histories_inner :
    let t : Declarations := [("outer", {}), ("inner", { indent := "\t" })]
    let es : List Event :=
      [.call "inner" (.setName "A"), .call "outer" (.nest "inner"), .call "inner" (.setName "B"),
        .print "outer", .call "outer" (.nest "inner"), .call "inner" (.setKind "class")]
    let fs : List Event :=
      [.call "outer" (.nest "inner"), .call "outer" (.setComment ""), .call "outer" (.nest "inner"),
        .call "inner" (.setKind "class"), .call "inner" (.setKind "trait"),
        .call "inner" (.setName "B")]
    ∃ s, (t.after es).text? "outer" = some s ∧ (t.after fs).text? "outer" = some s ∧
      s = "\x7b\n     class B \x7b\n    \x7d\n\n     class B \x7b\n    \x7d\n\x7d\n" := by
  intro t es fs
  have hnested : (t.after es).WellNested := by
    apply wellNested_of_rank fun id => if id = "outer" then 1 else 0
    decide +kernel
  have hcalls : ∀ id ∈ t.keys, SameCalls (callsOn id es) (callsOn id fs) := by
    have same : ∀ id ∈ ["outer", "inner"], SameCalls (callsOn id es) (callsOn id fs) := by
      rw [List.forall_mem_cons, List.forall_mem_singleton]
      constructor <;> constructor <;> decide +kernel
    exact same
  obtain ⟨s, hes, hfs⟩ := (texts_of_histories t t es fs).1 hnested hcalls "outer" (by decide)
  refine ⟨s, hes, hfs, ?_⟩
  apply Option.some.inj
  rw [← hes]
  decide +kernel

end Declarations

end SdlPhp.Php
