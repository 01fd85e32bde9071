/-
# Equality is an equivalence

The comparison of two bags is one-sided: it counts the keys and looks up those of the first
bag in the second one.  It amounts to this all the same, that under every key the two bags
hold the same meaning (`Bag.same_iff`): nothing, no value, a document, or a text that is no
document.  So the equality of bags is the equality of what they mean, and with it those of
envelopes and of messages are equivalences (`Message.same_equivalence`).
-/

import Parley.Message.Basic
import Parley.Proofs.Frame.Alike
import Parley.Proofs.Json.Equivalence

namespace Parley

/-- What a text means as the value of a property. -/
inductive Meaning where
  /-- The document that the text stands for, in its normal form. -/
  | document (x : Json)
  /-- A text that stands for no document means itself. -/
  | text (s : String)

/-- The meaning of a text. -/
def meaning (text : String) : Meaning :=
  match Json.parse text with
  | some x => .document x.normal
  | none => .text text

/-- A document means its normal form. -/
theorem meaning_of_parse {text : String} {x : Json} (h : Json.parse text = some x) :
    meaning text = .document x.normal := by
  rw [meaning, h]

/-- Any other text means itself. -/
theorem meaning_of_parse_eq_none {text : String} (h : Json.parse text = none) :
    meaning text = .text text := by
  rw [meaning, h]

/-- Texts are equal exactly when they mean the same. -/
theorem sameText_iff (a b : String) : sameText a b = true ↔ meaning a = meaning b := by
  rw [sameText, Bool.or_eq_true, beq_iff_eq]
  cases ha : Json.parse a with
  | none =>
    rw [meaning_of_parse_eq_none ha]
    cases hb : Json.parse b with
    | none => simp [meaning_of_parse_eq_none hb]
    | some y =>
      have hne : a ≠ b := by
        rintro rfl
        cases ha.symm.trans hb
      simp [meaning_of_parse hb, hne]
  | some x =>
    rw [meaning_of_parse ha]
    cases hb : Json.parse b with
    | none =>
      have hne : a ≠ b := by
        rintro rfl
        cases ha.symm.trans hb
      simp [meaning_of_parse_eq_none hb, hne]
    | some y =>
      simp only [meaning_of_parse hb, Meaning.document.injEq, Json.same_iff]
      constructor
      · rintro (rfl | hsame)
        · rw [Option.some.inj (ha.symm.trans hb)]
        · exact hsame
      · exact .inr

/-- Values are equal exactly when both are none, or mean the same. -/
theorem sameValue_iff (x y : Option String) :
    sameValue x y = true ↔ x.map meaning = y.map meaning := by
  cases x <;> cases y <;> simp [sameValue, sameText_iff]

namespace Bag

variable {a b : Bag} {key : String}

/-- What is found under a key, with the meaning of the text if there is one. -/
def meaning? (b : Bag) (key : String) : Option (Option Meaning) :=
  (b.get? key).map fun value => value.map meaning

/-- What means nothing under a key is not there. -/
theorem meaning?_eq_none : b.meaning? key = none ↔ b.get? key = none :=
  Option.map_eq_none_iff

/-- What is there without a value means that. -/
theorem meaning?_eq_some_none : b.meaning? key = some none ↔ b.get? key = some none := by
  rw [meaning?]
  cases b.get? key with
  | none => simp
  | some value => cases value <;> simp

/-- The keys of a bag are those under which something is found. -/
theorem mem_keys_iff (b : Bag) (key : String) :
    key ∈ b.entries.map Prod.fst ↔ (b.meaning? key).isSome = true := by
  rw [meaning?, Option.isSome_map]
  constructor
  · intro hmem
    cases hkey : b.get? key with
    | some value => rfl
    | none => exact absurd hmem (not_mem_of_lookup hkey)
  · intro hfound
    obtain ⟨value, hkey⟩ := Option.isSome_iff_exists.1 hfound
    exact List.mem_map_of_mem (mem_of_lookup hkey)

/-- Bags in which the same is found under every key have the same size. -/
theorem size_eq_of_meaning (h : ∀ key, a.meaning? key = b.meaning? key) : a.size = b.size := by
  have hkeys : (a.entries.map Prod.fst).Perm (b.entries.map Prod.fst) := by
    refine (List.perm_ext_iff_of_nodup a.ascending.nodup b.ascending.nodup).2 fun key => ?_
    rw [mem_keys_iff, mem_keys_iff, h key]
  simpa [size] using hkeys.length_eq

/-- Bags are equal exactly when the same is found under every key: nothing, no value, or texts
with the same meaning. -/
theorem same_iff (a b : Bag) : a.same b = true ↔ ∀ key, a.meaning? key = b.meaning? key := by
  constructor
  · intro h key
    rw [meaning?, meaning?]
    cases hkey : a.get? key with
    | some value =>
      obtain ⟨other, hother, hvalue⟩ := exists_of_same h hkey
      rw [hother, Option.map_some, Option.map_some, (sameValue_iff value other).1 hvalue]
    | none =>
      have hshape := shape_eq_of_same h key
      rw [hkey, Option.map_none] at hshape
      rw [Option.map_eq_none_iff.1 hshape.symm]
  · intro h
    rw [same, Bool.and_eq_true, beq_iff_eq, List.all_eq_true]
    refine ⟨size_eq_of_meaning h, fun entry hentry => ?_⟩
    have hkey : a.get? entry.1 = some entry.2 := lookup_of_mem a.ascending.nodup hentry
    have hmeaning := h entry.1
    rw [meaning?, meaning?, hkey, Option.map_some] at hmeaning
    cases hother : b.get? entry.1 with
    | none =>
      rw [hother] at hmeaning
      cases hmeaning
    | some other =>
      rw [hother, Option.map_some, Option.some.injEq] at hmeaning
      exact (sameValue_iff entry.2 other).2 hmeaning

end Bag

/-- What amounts to being the same in some respect is an equivalence. -/
theorem equivalence_of_iff {α β : Type} {r : α → α → Prop} (f : α → β)
    (h : ∀ x y, r x y ↔ f x = f y) : Equivalence r where
  refl x := (h x x).2 rfl
  symm hxy := (h _ _).2 ((h _ _).1 hxy).symm
  trans hxy hyz := (h _ _).2 (((h _ _).1 hxy).trans ((h _ _).1 hyz))

namespace Message

/-- What an envelope means: its tag, what is found under each key and the attachments. -/
def envelopeMeaning (m : Message) :
    Tag × (String → Option (Option Meaning)) × List (List UInt8) :=
  (m.tag, m.bag.meaning?, m.attachments)

/-- Envelopes are the same when they mean the same. -/
theorem sameEnvelope_iff (a b : Message) :
    a.sameEnvelope b = true ↔ a.envelopeMeaning = b.envelopeMeaning := by
  simp only [sameEnvelope, envelopeMeaning, Bool.and_eq_true, beq_iff_eq, Bag.same_iff,
    Prod.mk.injEq, funext_iff, and_assoc]

/-- Messages are the same when they are of one class and their envelopes mean the same. -/
theorem same_iff (a b : Message) :
    a.same b = true ↔
      (a.messageClass, a.envelopeMeaning) = (b.messageClass, b.envelopeMeaning) := by
  simp only [same, Bool.and_eq_true, beq_iff_eq, sameEnvelope_iff, Prod.mk.injEq]

/-- The equalities of bags, of envelopes and of messages are equivalences, whatever texts the
values have.  Equal bags have the same keys, and the same of these are without a value. -/
theorem same_equivalence :
    Equivalence (fun a b : Bag => a.same b = true) ∧
      Equivalence (fun a b : Message => a.sameEnvelope b = true) ∧
      Equivalence (fun a b : Message => a.same b = true) ∧
      ∀ a b : Bag, a.same b = true → ∀ key,
        (a.get? key = none ↔ b.get? key = none) ∧
          (a.get? key = some none ↔ b.get? key = some none) := by
  refine ⟨?_, ?_, ?_, ?_⟩
  · exact equivalence_of_iff Bag.meaning? fun a b => (Bag.same_iff a b).trans funext_iff.symm
  · exact equivalence_of_iff envelopeMeaning sameEnvelope_iff
  · exact equivalence_of_iff (fun m => (m.messageClass, m.envelopeMeaning)) same_iff
  · intro a b h key
    have hkey := (Bag.same_iff a b).1 h key
    constructor
    · rw [← Bag.meaning?_eq_none, hkey, Bag.meaning?_eq_none]
    · rw [← Bag.meaning?_eq_some_none, hkey, Bag.meaning?_eq_some_none]

/-- Properties of every kind: a document, a text that is none, and no value. -/
def tightBag : Bag :=
  Bag.empty.insert "document" (some "\x7b\"a\":[0.0,true],\"b\":1\x7d")
    |>.insert "text" (some "[")
    |>.insert "nothing" none

/-- The same document with another layout, order and sign of zero. -/
def looseBag : Bag :=
  tightBag.insert "document" (some " \x7b \"b\" : 1, \"a\" : [ -0.0, true ] \x7d ")

/-- Bags with other blanks and another order of fields are the same, either way round. -/
theorem same_equivalence_looseBag :
    tightBag.same looseBag = true ∧ looseBag.same tightBag = true ∧
      (tightBag.get? "nothing" = some none ↔ looseBag.get? "nothing" = some none) :=
  have hsame : tightBag.same looseBag = true := by decide +kernel
  ⟨hsame, same_equivalence.1.symm hsame, (same_equivalence.2.2.2 _ _ hsame "nothing").2⟩

end Message

end Parley
