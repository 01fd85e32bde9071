/-
# Tags and classes correspond

A registration is accepted only when its tag and its class are both free, so the bindings
of a registry have different tags and different classes (`OneToOne`).  This is kept by
every call, whether it is accepted, repeated or refused (`enter_cases`).  From it follows
that the two maps of a registry are inverse to each other after any calls, and that they
are what the calls make of two maps that are kept by themselves (`enterEach_corresponds`).
-/

import Parley.Registry.Maps
import Parley.Proofs.Association
import Parley.Proofs.Frame.Exact

namespace Parley.Registry

variable {r : Registry} {call : Registration} {tag : Tag} {c : MessageClass} {m : Message}

/-! ### One tag for a class -/

/-- No tag is bound twice, and no class. -/
structure OneToOne (r : Registry) : Prop where
  tags : (r.bindings.map Message.tag).Nodup
  classes : (r.bindings.map Message.messageClass).Nodup

/-- The empty registry is one to one. -/
theorem oneToOne_empty : empty.OneToOne :=
  ⟨List.nodup_nil, List.nodup_nil⟩

/-- The first map finds for a tag what the registry finds. -/
theorem lookup_templates (r : Registry) (tag : Tag) :
    r.maps.templates.lookup tag = r.template? tag := by
  rw [maps, lookup_map_eq_find?, Option.map_id']
  rfl

/-- The second map finds for a class what the registry finds. -/
theorem lookup_tags (r : Registry) (c : MessageClass) :
    r.maps.tags.lookup c = r.tagOf? c := by
  rw [maps, lookup_map_eq_find?]
  rfl

/-- A template is found exactly under its own tag. -/
theorem OneToOne.template?_eq_some (h : r.OneToOne) :
    r.template? tag = some m ↔ m ∈ r.bindings ∧ m.tag = tag := by
  constructor
  · intro hfound
    exact ⟨List.mem_of_find?_eq_some hfound, tag_of_template? hfound⟩
  · rintro ⟨hmem, rfl⟩
    rw [← lookup_templates]
    apply lookup_of_mem
    · simpa [maps, Function.comp_def] using h.tags
    · exact List.mem_map.2 ⟨m, hmem, rfl⟩

/-- A class leads to a tag when a binding has both. -/
theorem OneToOne.tagOf?_eq_some (h : r.OneToOne) :
    r.tagOf? c = some tag ↔ ∃ m ∈ r.bindings, m.messageClass = c ∧ m.tag = tag := by
  rw [← lookup_tags]
  constructor
  · intro hfound
    obtain ⟨m, hmem, heq⟩ := List.mem_map.1 (mem_of_lookup hfound)
    cases heq
    exact ⟨m, hmem, rfl, rfl⟩
  · rintro ⟨m, hmem, rfl, rfl⟩
    apply lookup_of_mem
    · simpa [maps, Function.comp_def] using h.classes
    · exact List.mem_map.2 ⟨m, hmem, rfl⟩

/-- A tag leads to a class when a binding has both. -/
theorem OneToOne.classOf?_eq_some (h : r.OneToOne) :
    r.classOf? tag = some c ↔ ∃ m ∈ r.bindings, m.messageClass = c ∧ m.tag = tag := by
  rw [classOf?, Option.map_eq_some_iff]
  constructor
  · rintro ⟨m, hfound, rfl⟩
    obtain ⟨hmem, htag⟩ := h.template?_eq_some.1 hfound
    exact ⟨m, hmem, rfl, htag⟩
  · rintro ⟨m, hmem, hclass, htag⟩
    exact ⟨m, h.template?_eq_some.2 ⟨hmem, htag⟩, hclass⟩

/-- The way from tags to classes and the way back are inverse to each other. -/
theorem OneToOne.classOf?_iff_tagOf? (h : r.OneToOne) (tag : Tag) (c : MessageClass) :
    r.classOf? tag = some c ↔ r.tagOf? c = some tag := by
  rw [h.classOf?_eq_some, h.tagOf?_eq_some]

/-! ### What one call does -/

/-- A registration of a class is one by a fresh message of the class. -/
theorem accept_eq_registerFactory (r : Registry) (call : Registration) :
    r.accept call = r.registerFactory call.tag call.product := by
  cases call <;> rfl

/-- A call conflicts and is refused, or it repeats a binding, or it makes a new one. -/
theorem enter_cases (r : Registry) (call : Registration) :
    (r.Conflicts call ∧ ∃ reason, r.enter call = (.error (.registrationConflict reason), r)) ∨
    (¬r.Conflicts call ∧ r.classOf? call.tag = some call.product.messageClass ∧
      r.enter call = (.ok (), r)) ∨
    (¬r.Conflicts call ∧ call.product.tag = call.tag ∧ r.template? call.tag = none ∧
      r.tagOf? call.product.messageClass = none ∧
      r.enter call = (.ok (), { bindings := r.bindings ++ [call.product] })) := by
  rw [enter, accept_eq_registerFactory, registerFactory]
  by_cases htag : call.product.tag ≠ call.tag
  · rw [if_pos htag]
    exact .inl ⟨.inl htag, _, rfl⟩
  rw [if_neg htag]
  cases hbound : r.template? call.tag with
  | some bound =>
    have hclass : r.classOf? call.tag = some bound.messageClass := by rw [classOf?, hbound]; rfl
    by_cases hsame : bound.messageClass = call.product.messageClass
    · refine .inr (.inl ⟨?_, hsame ▸ hclass, by simp only [if_pos hsame]⟩)
      simpa [Conflicts, hclass, hsame] using htag
    · refine .inl ⟨.inr (.inl ⟨_, hclass, hsame⟩),
        s!"{call.tag.name} is already bound to another type", ?_⟩
      simp only [if_neg hsame]
  | none =>
    have hclass : r.classOf? call.tag = none := by rw [classOf?, hbound]; rfl
    cases hother : r.tagOf? call.product.messageClass with
    | some other =>
      have hne : other ≠ call.tag := by
        rintro rfl
        obtain ⟨m, hfound, htag⟩ := Option.map_eq_some_iff.1 hother
        exact List.find?_eq_none.1 hbound m (List.mem_of_find?_eq_some hfound) (beq_iff_eq.2 htag)
      exact .inl ⟨.inr (.inr ⟨hclass, other, hother, hne⟩), _, rfl⟩
    | none =>
      refine .inr (.inr ⟨?_, not_not.1 htag, rfl, rfl, rfl⟩)
      simpa [Conflicts, hclass, hother] using htag

/-- A call leaves tags and classes in correspondence. -/
theorem OneToOne.enter (h : r.OneToOne) (call : Registration) : (r.enter call).2.OneToOne := by
  obtain ⟨-, _, heq⟩ | ⟨-, -, heq⟩ | ⟨-, htag, hfree, hnew, heq⟩ := enter_cases r call
  · rwa [heq]
  · rwa [heq]
  · rw [heq, ← htag] at *
    rw [← lookup_templates] at hfree
    rw [← lookup_tags] at hnew
    constructor
    · have hnodup := nodup_append_of_lookup call.product
        (by simpa [maps, Function.comp_def] using h.tags) hfree
      simpa [maps, Function.comp_def] using hnodup
    · have hnodup := nodup_append_of_lookup call.product.tag
        (by simpa [maps, Function.comp_def] using h.classes) hnew
      simpa [maps, Function.comp_def] using hnodup

/-- A bound tag keeps its template. -/
theorem template?_enter (h : r.template? tag = some m) (call : Registration) :
    (r.enter call).2.template? tag = some m := by
  obtain ⟨-, _, heq⟩ | ⟨-, -, heq⟩ | ⟨-, -, -, -, heq⟩ := enter_cases r call
  · rwa [heq]
  · rwa [heq]
  · rw [heq, template?, List.find?_append]
    rw [template?] at h
    rw [h, Option.some_or]

/-- A call that is refused changes nothing. -/
theorem enter_of_conflicts (h : r.Conflicts call) : (r.enter call).2 = r := by
  obtain ⟨-, _, heq⟩ | ⟨hnone, -⟩ | ⟨hnone, -⟩ := enter_cases r call
  · rw [heq]
  · exact absurd h hnone
  · exact absurd h hnone

/-- A call that finds its tag bound changes nothing. -/
theorem enter_of_isRegistered (h : r.isRegistered call.tag) : (r.enter call).2 = r := by
  obtain ⟨-, _, heq⟩ | ⟨-, -, heq⟩ | ⟨-, -, hfree, -, -⟩ := enter_cases r call
  · rw [heq]
  · rw [heq]
  · rw [isRegistered, hfree] at h
    cases h

/-- A call is refused exactly when it conflicts. -/
theorem enter_eq_registrationConflict :
    (∃ reason, (r.enter call).1 = .error (.registrationConflict reason)) ↔ r.Conflicts call := by
  constructor
  · rintro ⟨reason, hfault⟩
    obtain ⟨hconflict, -⟩ | ⟨-, -, heq⟩ | ⟨-, -, -, -, heq⟩ := enter_cases r call
    · exact hconflict
    · simp [heq] at hfault
    · simp [heq] at hfault
  · intro hconflict
    obtain ⟨-, reason, heq⟩ | ⟨hnone, -⟩ | ⟨hnone, -⟩ := enter_cases r call
    · exact ⟨reason, by rw [heq]⟩
    · exact absurd hconflict hnone
    · exact absurd hconflict hnone

/-- A registration in the two maps of a registry is one in the registry. -/
theorem enter_maps (r : Registry) (call : Registration) :
    r.maps.enter call = ((r.enter call).1, (r.enter call).2.maps) := by
  rw [Maps.enter, Registry.enter, accept_eq_registerFactory, registerFactory, lookup_templates,
    lookup_tags]
  by_cases htag : call.product.tag ≠ call.tag
  · rw [if_pos htag, if_pos htag]
  rw [if_neg htag, if_neg htag]
  cases r.template? call.tag with
  | some bound =>
    by_cases hsame : bound.messageClass = call.product.messageClass
    · simp only [if_pos hsame]
    · simp only [if_neg hsame]
  | none =>
    cases r.tagOf? call.product.messageClass with
    | some other => rfl
    | none => simp [maps, not_not.1 htag]

/-- A registration that is accepted binds its tag to its class, and a free tag to its
template. -/
theorem enter_binds (hconflict : ¬r.Conflicts call) :
    (r.enter call).1 = .ok () ∧
    (r.enter call).2.classOf? call.tag = some call.product.messageClass ∧
    (r.template? call.tag = none → (r.enter call).2.template? call.tag = some call.product) := by
  obtain ⟨hnot, -⟩ | ⟨-, hclass, heq⟩ | ⟨-, htag, hfree, -, heq⟩ := enter_cases r call
  · exact absurd hnot hconflict
  · rw [heq]
    refine ⟨rfl, hclass, fun hfree => ?_⟩
    simp [classOf?, hfree] at hclass
  · have hbound : (r.enter call).2.template? call.tag = some call.product := by
      rw [template?] at hfree
      rw [heq, template?, List.find?_append, hfree]
      simp [htag]
    refine ⟨by rw [heq], ?_, fun _ => hbound⟩
    rw [classOf?, hbound]
    rfl

/-- A registration concerns no other tag. -/
theorem template?_enter_of_ne (hne : tag ≠ call.tag) :
    (r.enter call).2.template? tag = r.template? tag := by
  obtain ⟨-, _, heq⟩ | ⟨-, -, heq⟩ | ⟨-, htag, -, -, heq⟩ := enter_cases r call
  · rw [heq]
  · rw [heq]
  · have hother : call.product.tag ≠ tag := fun h => hne (h.symm.trans htag)
    rw [heq, template?, List.find?_append]
    simp [template?, hother]

/-! ### What any calls do -/

/-- A registry stays one to one with any registrations. -/
theorem OneToOne.enterEach (h : r.OneToOne) (calls : List Registration) :
    (r.enterEach calls).OneToOne := by
  induction calls generalizing r with
  | nil => exact h
  | cons call rest ih => exact ih (h.enter call)

/-- A bound tag keeps its template for ever. -/
theorem template?_enterEach (h : r.template? tag = some m) (calls : List Registration) :
    (r.enterEach calls).template? tag = some m := by
  induction calls generalizing r with
  | nil => exact h
  | cons call rest ih => exact ih (template?_enter h call)

/-- The calls make the same of two maps that are kept by themselves. -/
theorem enterEach_maps (r : Registry) (calls : List Registration) :
    r.maps.enterEach calls = (r.enterEach calls).maps := by
  induction calls generalizing r with
  | nil => rfl
  | cons call rest ih =>
    have hcall : (r.maps.enter call).2 = (r.enter call).2.maps := by rw [enter_maps]
    exact (congrArg (Maps.enterEach · rest) hcall).trans (ih (r.enter call).2)

/-- What one more registration does, when the registry and the two maps are those that other
calls left. -/
structure RegistersOnce (r : Registry) (maps : Maps) (call : Registration) : Prop where
  maps : maps.enter call = ((r.enter call).1, (r.enter call).2.maps)
  /-- The call is refused exactly when it conflicts, -/
  refused : (∃ reason, (r.enter call).1 = .error (.registrationConflict reason)) ↔ r.Conflicts call
  accepted : ¬ r.Conflicts call → (r.enter call).1 = .ok ()
  /-- and then it changes nothing, nor does one whose tag is bound already. -/
  unchanged : r.Conflicts call ∨ r.isRegistered call.tag → (r.enter call).2 = r
  /-- Otherwise it binds its tag to its class -/
  bound : ¬ r.Conflicts call →
    (r.enter call).2.classOf? call.tag = some call.product.messageClass
  template : ¬ r.Conflicts call → r.template? call.tag = none →
    (r.enter call).2.template? call.tag = some call.product
  /-- and leaves the other tags alone. -/
  others : ∀ tag, tag ≠ call.tag → (r.enter call).2.template? tag = r.template? tag

/-- How the tags and the classes of a registry correspond, and those of two maps that are kept
beside it. -/
structure Corresponds (r : Registry) (maps : Maps) : Prop where
  /-- The two maps are those of the registry, -/
  same : maps = r.maps
  templates : ∀ tag, maps.templates.lookup tag = r.template? tag
  tags : ∀ c, maps.tags.lookup c = r.tagOf? c
  /-- and they are inverse to each other. -/
  inverse : ∀ tag c, r.classOf? tag = some c ↔ r.tagOf? c = some tag
  call : ∀ call, RegistersOnce r maps call
  /-- What a tag is bound to it keeps for ever. -/
  kept : ∀ tag m more, r.template? tag = some m → (r.enterEach more).template? tag = some m
  /-- A code makes a message exactly when its tag is bound, and the message has this tag and the
  class that is bound to it. -/
  created : ∀ code m, r.create code = .ok m ↔
    ∃ tag, tag.code = code ∧ r.template? tag = some m ∧
      m.tag = tag ∧ r.classOf? tag = some m.messageClass
  /-- All other codes are unknown. -/
  unknown : ∀ code fault, r.create code = .error fault ↔
    fault = .unknownTag code ∧ ∀ tag : Tag, tag.code = code → r.classOf? tag = none

/-- Whatever registrations were called, accepted or not, the map from tags to classes and
the map from classes to tags are inverse to each other, and stay so by a further call. -/
theorem enterEach_corresponds (calls : List Registration) :
    Corresponds (empty.enterEach calls) (({} : Maps).enterEach calls) := by
  have hone : (empty.enterEach calls).OneToOne := oneToOne_empty.enterEach calls
  have hmaps : ({} : Maps).enterEach calls = (empty.enterEach calls).maps :=
    enterEach_maps empty calls
  exact {
    same := hmaps
    templates := fun tag => by rw [hmaps, lookup_templates]
    tags := fun c => by rw [hmaps, lookup_tags]
    inverse := hone.classOf?_iff_tagOf?
    call := fun call => {
      maps := by rw [hmaps, enter_maps]
      refused := enter_eq_registrationConflict
      accepted := fun hnot => (enter_binds hnot).1
      unchanged := fun h => h.elim enter_of_conflicts enter_of_isRegistered
      bound := fun hnot => (enter_binds hnot).2.1
      template := fun hnot => (enter_binds hnot).2.2
      others := fun _ => template?_enter_of_ne }
    kept := fun _ _ more hbound => template?_enterEach hbound more
    created := fun code m => by
      rw [create_eq_ok]
      constructor
      · rintro ⟨rfl, hbound⟩
        exact ⟨m.tag, rfl, hbound, rfl, by rw [classOf?, hbound]; rfl⟩
      · rintro ⟨_, rfl, hbound, rfl, -⟩
        exact ⟨rfl, hbound⟩
    unknown := fun code fault => by
      simp only [create_eq_error, classOf?, Option.map_eq_none_iff] }

/-- One class is registered, and a second one for the tag of its reply.  A third call would
bind the first class once more, and its message has the wrong tag. -/
theorem enterEach_corresponds_twoClasses :
    let heartbeat := Registration.ofClass (.request .heartbeat)
    let general := Registration.ofProduct (.reply .heartbeat) (.anyReply (.reply .heartbeat))
    let stray := Registration.ofProduct (.request .connect) (.request .heartbeat)
    let r := empty.enterEach [heartbeat, general, stray]
    r.bindings = [.request .heartbeat, .anyReply (.reply .heartbeat)] ∧
    (∃ reason, (r.enter stray).1 = .error (.registrationConflict reason)) ∧
    (r.enter (.ofClass (.reply .heartbeat))).2 = r ∧
    (r.enterEach [.ofClass (.request .connect)]).template? (.reply .heartbeat) =
      some (.anyReply (.reply .heartbeat)) ∧
    r.create 8 = .ok (.anyReply (.reply .heartbeat)) ∧
    r.create 3 = .error (.unknownTag 3) := by
  intro heartbeat general stray r
  have hcorresponds := enterEach_corresponds [heartbeat, general, stray]
  refine ⟨by decide, ?_, ?_, ?_, ?_, ?_⟩
  · exact (hcorresponds.call stray).refused.2 (.inl (by decide))
  · exact (hcorresponds.call (.ofClass (.reply .heartbeat))).unchanged (.inr (by decide))
  · exact hcorresponds.kept (.reply .heartbeat) (.anyReply (.reply .heartbeat))
      [.ofClass (.request .connect)] (by decide)
  · exact (hcorresponds.created 8 (.anyReply (.reply .heartbeat))).2
      ⟨.reply .heartbeat, by decide, by decide, by decide, by decide⟩
  · refine (hcorresponds.unknown 3 (.unknownTag 3)).2 ⟨rfl, fun tag hcode => ?_⟩
    obtain rfl : tag = .request .connect := Tag.code_injective hcode
    decide

end Parley.Registry
