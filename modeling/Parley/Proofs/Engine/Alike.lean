/-
# Parameters in equal requests

The integers, truth values and durations among the parameters of a request are read with the
typed getters, or out of the options of a workflow.  So they are the same for equal requests
if both are understood (`Message.typed_of_same`).  Whether both are may depend on the texts that
tell equal bags apart (`Message.getters_differ_on_equal_bags`).
-/

import Parley.Engine.Alike
import Parley.Proofs.Bag.Agreement
import Parley.Proofs.Json.Record

namespace Parley

/-! ### Options -/

namespace Workflow.Options

/-- The readers of single options see no sign of a zero. -/
theorem readers_normal (value : Option Json) :
    optionalText? (value.map Json.normal) = optionalText? value ∧
      text? (value.map Json.normal) = text? value ∧
      optionalTimeout? (value.map Json.normal) = optionalTimeout? value ∧
      reuse? (value.map Json.normal) = reuse? value := by
  cases value with
  | none => exact ⟨rfl, rfl, rfl, rfl⟩
  | some x =>
    cases x with
    | num n => cases n <;> exact ⟨rfl, rfl, rfl, rfl⟩
    | _ => exact ⟨rfl, rfl, rfl, rfl⟩

/-- Fields that are the same are read alike. -/
theorem readers_eq_of_normal {value value' : Option Json}
    (h : value.map Json.normal = value'.map Json.normal) :
    optionalText? value = optionalText? value' ∧ text? value = text? value' ∧
      optionalTimeout? value = optionalTimeout? value' ∧ reuse? value = reuse? value' := by
  obtain ⟨hid, htext, htimeout, hreuse⟩ := readers_normal value
  obtain ⟨hid', htext', htimeout', hreuse'⟩ := readers_normal value'
  rw [h] at hid htext htimeout hreuse
  exact ⟨hid.symm.trans hid', htext.symm.trans htext', htimeout.symm.trans htimeout',
    hreuse.symm.trans hreuse'⟩

/-- Texts of options with the same meaning have the same options, if both have any. -/
theorem eq_of_meaning {t u : String} {o o' : Options} (h : meaning t = meaning u)
    (ht : ofText? t = some o) (hu : ofText? u = some o') : o = o' := by
  rcases eq_or_parse_of_meaning h with rfl | ⟨x, y, hx, hy, hnormal⟩
  · exact Option.some.inj (ht.symm.trans hu)
  · unfold ofText? at ht hu
    split at ht
    · rename_i id taskList execution decision reuse hrecord
      split at hu
      · rename_i id' taskList' execution' decision' reuse' hrecord'
        have hvalues := Json.normal_record_eq hx hy hnormal hrecord hrecord'
        simp only [List.map_cons, List.map_nil, List.cons.injEq, and_true] at hvalues
        obtain ⟨hid, htaskList, hexecution, hdecision, hreuse⟩ := hvalues
        rw [(readers_eq_of_normal hid).1, (readers_eq_of_normal htaskList).2.1,
          (readers_eq_of_normal hexecution).2.2.1, (readers_eq_of_normal hdecision).2.2.1,
          (readers_eq_of_normal hreuse).2.2.2] at ht
        exact Option.some.inj (ht.symm.trans hu)
      · cases hu
    · cases ht

end Workflow.Options

namespace Engine

variable {a b : Bag}

/-! ### Domains -/

/-- A truth value and an integer, read one after the other. -/
def settings (b : Bag) (flag count : String) : Except Fault (Bool × Int32) := do
  let emitMetrics ← b.getBool flag
  let retentionDays ← b.getInt32D count
  return (emitMetrics, retentionDays)

/-- A registration reads two settings off its bag. -/
theorem RegisterDomain.settings_ofBag (b : Bag) :
    (RegisterDomain.ofBag b).map (fun p => (p.emitMetrics, p.retentionDays)) =
      settings b Key.emitMetrics Key.retentionDays := by
  unfold RegisterDomain.ofBag settings
  cases b.getBool Key.emitMetrics with
  | error fault => rfl
  | ok emitMetrics => cases b.getInt32D Key.retentionDays <;> rfl

/-- An update reads the same two settings off its bag, under other keys. -/
theorem UpdateDomain.settings_ofBag (b : Bag) :
    (UpdateDomain.ofBag b).map (fun p => (p.emitMetrics, p.retentionDays)) =
      settings b Key.configuredEmitMetrics Key.configuredRetentionDays := by
  unfold UpdateDomain.ofBag settings
  cases b.getBool Key.configuredEmitMetrics with
  | error fault => rfl
  | ok emitMetrics => cases b.getInt32D Key.configuredRetentionDays <;> rfl

/-- Conversions that read a truth value and then an integer agree as far as the getters do. -/
theorem domainAlike {α : Type} {convert : Bag → Except Fault α} {typed : α → Bool × Int32}
    {flag count : String} (hconvert : ∀ b, (convert b).map typed = settings b flag count)
    (h : a.TypedAlike b) : DomainAlike convert typed flag count a b where
  outcome hflag hcount := by
    rw [hconvert, hconvert, settings, settings, (h.bool.agree flag).2 hflag, Bag.getInt32D,
      Bag.getInt32D, (h.int32.agree count).2 hcount]
  values p q hp hq := by
    have ha := hconvert a
    have hb := hconvert b
    rw [hp, map_ok] at ha
    rw [hq, map_ok] at hb
    obtain ⟨flag₁, hflag₁, ha⟩ := bind_eq_ok.1 ha.symm
    obtain ⟨flag₂, hflag₂, hb⟩ := bind_eq_ok.1 hb.symm
    obtain ⟨count₁, hcount₁, ha⟩ := bind_eq_ok.1 ha
    obtain ⟨count₂, hcount₂, hb⟩ := bind_eq_ok.1 hb
    obtain ⟨found₁, hfound₁, rfl⟩ := map_eq_ok.1 hcount₁
    obtain ⟨found₂, hfound₂, rfl⟩ := map_eq_ok.1 hcount₂
    rw [← Except.ok.inj ha, ← Except.ok.inj hb, h.bool.values flag _ _ hflag₁ hflag₂,
      h.int32.values count _ _ hfound₁ hfound₂]

/-! ### Workflows -/

/-- A start reads its options off its bag, and has the usual ones without. -/
theorem StartWorkflow.options_of_ofBag {p : StartWorkflow} (h : StartWorkflow.ofBag b = .ok p) :
    ∃ options, b.getOptions Key.options = .ok options ∧ p.options = options.getD {} := by
  obtain ⟨args, -, h⟩ := bind_eq_ok.1 h
  obtain ⟨options, hoptions, h⟩ := bind_eq_ok.1 h
  cases h
  exact ⟨options, hoptions, rfl⟩

/-- The texts of options are accepted. -/
theorem accepts_getOptions :
    Bag.Accepts Bag.getOptions none some
      "cadence_proxy::messages::workflow::StartWorkflowOptions"
      fun text options => Workflow.Options.ofText? text = some options :=
  Bag.accepts_getWith fun _ _ => Iff.rfl

/-- What equal bags give as parameters. -/
theorem paramsAlike_of_same (h : a.same b = true) : ParamsAlike a b where
  registerDomain := domainAlike RegisterDomain.settings_ofBag (Bag.typedAlike_of_same h)
  updateDomain := domainAlike UpdateDomain.settings_ofBag (Bag.typedAlike_of_same h)
  startWorkflow p q hp hq := by
    obtain ⟨options, hoptions, hp⟩ := StartWorkflow.options_of_ofBag hp
    obtain ⟨options', hoptions', hq⟩ := StartWorkflow.options_of_ofBag hq
    rw [hp, hq, accepts_getOptions.values_of_same Workflow.Options.eq_of_meaning h hoptions
      hoptions']

end Engine

namespace Message

/-- Messages that are the same have the same bags. -/
theorem same_bag {m n : Message} (h : m.same n = true) : m.bag.same n.bag = true := by
  simp only [same, sameEnvelope, Bool.and_eq_true] at h
  exact h.2.1.2

/-- On equal bags the typed getters give the same under every key: always the same duration, the
same integer unless just one of the two texts is minus zero, the same truth value unless just
one of them has space around it, and never two different values.  So the parameters that are read
from equal messages agree in their integers, truth values and durations. -/
theorem typed_of_same :
    (∀ a b : Bag, a.same b = true → a.TypedAlike b) ∧
      ∀ m n : Message, m.same n = true → Engine.ParamsAlike m.bag n.bag :=
  ⟨fun _ _ => Bag.typedAlike_of_same, fun _ _ h => Engine.paramsAlike_of_same (same_bag h)⟩

/-- A request for a workflow and for a domain at once. -/
def terseRequest : Message :=
  { Message.request .executeWorkflow with
    bag := Bag.empty.insert Key.emitMetrics (some "true")
      |>.insert Key.retentionDays (some "30")
      |>.insert Key.options (some "\x7b\"DecisionTaskStartToCloseTimeout\":5\x7d") }

/-- The same with other texts for the same documents. -/
def spaciousRequest : Message :=
  { Message.request .executeWorkflow with
    bag := Bag.empty.insert Key.emitMetrics (some "true")
      |>.insert Key.retentionDays (some "\t30 ")
      |>.insert Key.options
        (some " \x7b \"DecisionTaskStart\\u0054oCloseTimeout\" : 5\n\x7d") }

/-- Blanks and the order of fields make no difference to what these bags are read as. -/
theorem typed_of_same_spaciousRequest :
    terseRequest.same spaciousRequest = true ∧
      terseRequest.bag.same spaciousRequest.bag = true ∧
      spaciousRequest.bag.getInt32 Key.retentionDays = .ok (some 30) ∧
      terseRequest.bag.TypedAlike spaciousRequest.bag ∧
      Engine.ParamsAlike terseRequest.bag spaciousRequest.bag :=
  have hsame : terseRequest.same spaciousRequest = true := by decide +kernel
  have hbag : terseRequest.bag.same spaciousRequest.bag = true := by decide +kernel
  ⟨hsame, hbag, by decide +kernel, typed_of_same.1 _ _ hbag, typed_of_same.2 _ _ hsame⟩

/-- A domain whose texts the typed getters understand. -/
def readableDomain : Bag :=
  Bag.empty.insert Key.emitMetrics (some "true")
    |>.insert Key.retentionDays (some "-0")

/-- The same documents in texts that they do not understand. -/
def unreadableDomain : Bag :=
  Bag.empty.insert Key.emitMetrics (some " true")
    |>.insert Key.retentionDays (some "0.0")

/-- Equal bags of which the getters and the conversions understand just one. -/
theorem getters_differ_on_equal_bags :
    readableDomain.same unreadableDomain = true ∧
      readableDomain.getBool Key.emitMetrics = .ok true ∧
      unreadableDomain.getBool Key.emitMetrics =
        .error (.typeMismatch Key.emitMetrics "bool") ∧
      readableDomain.getInt32 Key.retentionDays = .ok (some 0) ∧
      unreadableDomain.getInt32 Key.retentionDays =
        .error (.typeMismatch Key.retentionDays "i32") ∧
      readableDomain.getInt64 Key.retentionDays = .ok (some 0) ∧
      unreadableDomain.getInt64 Key.retentionDays =
        .error (.typeMismatch Key.retentionDays "i64") ∧
      Engine.RegisterDomain.ofBag readableDomain =
        .ok { emitMetrics := true, retentionDays := 0 } ∧
      Engine.RegisterDomain.ofBag unreadableDomain =
        .error (.typeMismatch Key.emitMetrics "bool") := by
  decide +kernel

end Message

end Parley
