/-
# Frames of messages that compare equal

Messages compare equal when their properties stand for the same documents, and a document
may be written in several ways.  A frame holds the texts themselves.  So equal messages
agree in their tags, their attachments and their keys, and their frames are the same
exactly when the texts are the same as well (`Codec.encode_eq_iff_of_same`).

That the keys agree rests on counting: the comparison looks up every key of one bag in the
other one, and there are as many keys in both.
-/

import Mathlib.Data.List.Perm.Subperm
import Parley.Proofs.Frame.Listing

namespace Parley

namespace Bag

variable {a b : Bag}

/-- Equal values are both there, or both are none. -/
theorem isSome_eq_of_sameValue {x y : Option String} (h : sameValue x y = true) :
    x.isSome = y.isSome := by
  cases x <;> cases y <;> first | rfl | cases h

/-- Of two equal bags the second one has every key of the first, with an equal value. -/
theorem exists_of_same (h : a.same b = true) {key : String} {value : Option String}
    (hkey : a.get? key = some value) :
    ∃ other, b.get? key = some other ∧ sameValue value other = true := by
  rw [same, Bool.and_eq_true, List.all_eq_true] at h
  have hentry := h.2 (key, value) (mem_of_lookup hkey)
  cases hother : b.get? key with
  | none =>
    rw [hother] at hentry
    cases hentry
  | some other =>
    rw [hother] at hentry
    exact ⟨other, rfl, hentry⟩

/-- Equal bags have the same keys. -/
theorem keys_perm_of_same (h : a.same b = true) :
    (a.entries.map Prod.fst).Perm (b.entries.map Prod.fst) := by
  have hsubset : a.entries.map Prod.fst ⊆ b.entries.map Prod.fst := by
    intro key hmem
    obtain ⟨⟨key, value⟩, hentry, rfl⟩ := List.mem_map.1 hmem
    have hkey : a.get? key = some value := lookup_of_mem a.ascending.nodup hentry
    obtain ⟨other, hother, -⟩ := exists_of_same h hkey
    exact List.mem_map.2 ⟨(key, other), mem_of_lookup hother, rfl⟩
  have hsize : b.size = a.size := by
    rw [same, Bool.and_eq_true, beq_iff_eq] at h
    exact h.1.symm
  refine (List.subperm_of_subset a.ascending.nodup hsubset).perm_of_length_le ?_
  rw [List.length_map, List.length_map]
  exact Nat.le_of_eq hsize

/-- Equal bags agree in what is absent, what has no value and what has one. -/
theorem shape_eq_of_same (h : a.same b = true) (key : String) :
    (a.get? key).map Option.isSome = (b.get? key).map Option.isSome := by
  cases hkey : a.get? key with
  | some value =>
    obtain ⟨other, hother, hvalue⟩ := exists_of_same h hkey
    rw [hother, Option.map_some, Option.map_some, isSome_eq_of_sameValue hvalue]
  | none =>
    have hnone : b.get? key = none := by
      refine lookup_of_not_mem fun hmem => ?_
      exact not_mem_of_lookup hkey ((keys_perm_of_same h).mem_iff.2 hmem)
    rw [hnone]

end Bag

namespace Codec

open Parley.Frame

/-- How far the frames of two messages that compare equal are alike. -/
structure NearlyAlike (c : Codec) (a b : Message) : Prop where
  tag : a.tag = b.tag
  attachments : a.attachments = b.attachments
  /-- Each key is there with a value in both, without one in both, or in neither. -/
  keys : ∀ key, (a.bag.get? key).map Option.isSome = (b.bag.get? key).map Option.isSome
  /-- The messages are encoded with the same result exactly when each key has the same text as
  well, unless neither can be encoded and for the same reason. -/
  encode_eq_iff : c.encode a = c.encode b ↔
    (∀ key, a.bag.get? key = b.bag.get? key) ∨
      ∃ fault, c.encode a = .error fault ∧ c.encode b = .error fault

/-- Messages that compare equal differ in their frames by the texts of properties at most, and
exactly when they have different ones. -/
theorem encode_eq_iff_of_same (c : Codec) {a b : Message} (h : a.same b = true) :
    c.NearlyAlike a b := by
  simp only [Message.same, Message.sameEnvelope, Bool.and_eq_true, beq_iff_eq] at h
  obtain ⟨-, ⟨htag, hbag⟩, hattachments⟩ := h
  refine ⟨htag, hattachments, Bag.shape_eq_of_same hbag, ?_⟩
  constructor
  · intro heq
    cases ha : c.encode a with
    | error fault => exact .inr ⟨fault, rfl, heq.symm.trans ha⟩
    | ok frame =>
      have hcontents := (encode_eq_iff ha (heq.symm.trans ha)).1 rfl
      exact .inl (congrFun (congrArg Contents.state hcontents))
  · rintro (htexts | ⟨fault, ha, hb⟩)
    · have hsame : a.bag = b.bag := Bag.ext_get? htexts
      rw [encode, encode, body, body, htag, hsame, hattachments]
    · rw [ha, hb]

/-- A sign of life with a property. -/
def annotated (text : String) : Message :=
  (Message.request .heartbeat).insert "note" (some text)

/-- Two messages that differ in the blanks around a number compare equal. -/
theorem encode_eq_iff_of_same_annotated :
    (annotated "[1]").same (annotated "[ 1 ]") = true ∧
      standard.NearlyAlike (annotated "[1]") (annotated "[ 1 ]") := by
  have h : (annotated "[1]").same (annotated "[ 1 ]") = true := by decide +kernel
  exact ⟨h, encode_eq_iff_of_same standard h⟩

/-- Two messages that compare equal have different frames: an object is written with its
keys in another order. -/
theorem encode_ne_of_key_order :
    (annotated "\x7b\"a\":1,\"b\":2\x7d").same
        (annotated "\x7b \"b\": 2, \"a\": 1 \x7d") = true ∧
      standard.encode (annotated "\x7b\"a\":1,\"b\":2\x7d") ≠
        standard.encode (annotated "\x7b \"b\": 2, \"a\": 1 \x7d") := by
  refine ⟨by decide +kernel, fun heq => ?_⟩
  have hframes : (standard.encode (annotated "\x7b\"a\":1,\"b\":2\x7d")).toOption ≠
      (standard.encode (annotated "\x7b \"b\": 2, \"a\": 1 \x7d")).toOption := by
    decide +kernel
  exact hframes (congrArg Except.toOption heq)

end Codec

end Parley
