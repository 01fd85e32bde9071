/-
# What a correlator hands over

Whatever is done with a correlator, it does one of three things: entries leave the table and
outcomes that suit them are delivered, or an id is used up, or a request is recorded under the
next id.  As long as the ids do not come round, an id belongs to one request.  So whoever
waits for the outcome of a request is told a fault, or gets a reply of the type that the
request expects, in the class that the registry has for this type.
-/

import Parley.Correlator.Use
import Parley.Proofs.Client
import Parley.Proofs.Correlator.Table

namespace Parley.Correlator

variable {c c' : Correlator} {id : Int64} {expected : Tag} {n m : Nat}

/-! ### Outcomes that suit a request -/

/-- What the caller of a request may be told that expects this type of reply: a reply of this
type as a decoder makes it, or a fault other than an unexpected message. -/
def Suits (expected : Tag) : Verdict → Prop
  | .ok reply => reply.tag = expected ∧ Registry.standard.template? reply.tag = some reply.blank
  | .error fault => ∀ tag, fault ≠ .unexpectedMessage tag

/-- A reply that suits a request of an exchange is of the reply class of this exchange. -/
theorem Suits.messageClass {op : Operation} {reply : Message}
    (h : Suits (.reply op) (.ok reply)) : reply.messageClass = .reply op := by
  obtain ⟨htag, htemplate⟩ := h
  rw [htag, Registry.template?_standard_reply] at htemplate
  exact (congrArg Message.messageClass (Option.some.inj htemplate)).symm

/-! ### What one use can do -/

/-- Entries may have left the table, and outcomes may have been collected.  What was delivered
suits an entry that was in the table. -/
structure Yields (c c' : Correlator) : Prop where
  codec : c'.codec = c.codec
  nextId : c'.nextId = c.nextId
  pending : ∀ entry ∈ c'.table.pending, entry ∈ c.table.pending
  delivered : ∀ due ∈ c'.delivered, due ∈ c.delivered ∨
    ∃ expected, (due.1, expected) ∈ c.table.pending ∧ Suits expected due.2

namespace Yields

/-- A correlator yields itself. -/
theorem refl (c : Correlator) : Yields c c where
  codec := rfl
  nextId := rfl
  pending _ hentry := hentry
  delivered _ hdue := .inl hdue

/-- A correlator yields tables that have no more entries. -/
theorem of_table {table : InFlight} (h : ∀ entry ∈ table.pending, entry ∈ c.table.pending) :
    Yields c { c with table } :=
  { refl c with pending := h }

/-- Some outcomes are collected. -/
theorem collect (h : Yields c c') (p : Delivery → Bool) :
    Yields c { c' with delivered := c'.delivered.filter p } :=
  { h with delivered := fun due hdue => h.delivered due (List.mem_filter.1 hdue).1 }

/-- One more outcome is delivered. -/
theorem deliver (h : Yields c c') {verdict : Verdict}
    (hentry : (id, expected) ∈ c.table.pending) (hsuits : Suits expected verdict) :
    Yields c (c'.deliver (id, verdict)) :=
  { h with
    delivered := fun due hdue => by
      rcases List.mem_append.1 hdue with hold | hnew
      · exact h.delivered due hold
      · obtain rfl := List.mem_singleton.1 hnew
        exact .inr ⟨expected, hentry, hsuits⟩ }

/-- A correlator yields outcomes that suit what was in flight. -/
theorem deliverAll (h : Yields c c') {due : List Delivery}
    (hdue : ∀ outcome ∈ due, ∃ expected, (outcome.1, expected) ∈ c.table.pending ∧
      Suits expected outcome.2) : Yields c (c'.deliverAll due) := by
  induction due generalizing c' with
  | nil => exact h
  | cons outcome due ih =>
    obtain ⟨expected, hentry, hsuits⟩ := hdue outcome List.mem_cons_self
    exact ih (h.deliver hentry hsuits) fun other hother =>
      hdue other (List.mem_cons_of_mem _ hother)

end Yields

/-- To give a request up leaves entries that were there. -/
theorem mem_of_retire? {table : InFlight} {now : Millis}
    (h : c.table.retire? id now c.retiredTtl = some table) :
    ∀ entry ∈ table.pending, entry ∈ c.table.pending := by
  obtain ⟨-, hpending, -⟩ := InFlight.retire?_eq_some h
  intro entry hentry
  rw [hpending] at hentry
  exact (List.mem_filter.1 hentry).1

/-- To withdraw a request adds no entry. -/
theorem yields_withdraw (c : Correlator) (id : Int64) : Yields c (c.withdraw id) :=
  .of_table fun _ hentry => (List.mem_filter.1 hentry).1

/-- To give a request up adds no entry. -/
theorem yields_giveUp (c : Correlator) (id : Int64) (now : Millis) :
    Yields c (c.giveUp id now).2 := by
  rcases giveUp_cases c id now with ⟨table, hretire, hgiveUp⟩ | ⟨-, hgiveUp⟩
  · rw [hgiveUp]
    exact .of_table (mem_of_retire? hretire)
  · rw [hgiveUp]
    exact .refl c

/-- To cancel a request adds no entry. -/
theorem yields_cancel (c : Correlator) (id : Int64) (now : Millis) :
    Yields c (c.cancel id now).2 := by
  rcases giveUp_cases c id now with ⟨table, hretire, hgiveUp⟩ | ⟨-, hgiveUp⟩
  · obtain ⟨⟨expected, hentry⟩, -, -⟩ := InFlight.retire?_eq_some hretire
    rw [cancel, hgiveUp]
    exact (Yields.of_table (mem_of_retire? hretire)).deliver hentry nofun
  · rw [cancel, hgiveUp]
    exact .refl c

/-- To abandon a request adds no entry. -/
theorem yields_abandon (c : Correlator) (id : Int64) (now : Millis) :
    Yields c (c.abandon id now) :=
  (yields_giveUp c id now).collect _

/-- To look for an outcome adds no entry. -/
theorem yields_poll (c : Correlator) (id : Int64) (deadline : Option Millis) (now : Millis)
    (clockFirst : Bool) : Yields c (c.poll id deadline now clockFirst).2 := by
  rcases poll_cases c id deadline now clockFirst with ⟨verdict, -, hpoll⟩ |
    ⟨table, -, hretire, hpoll⟩ | ⟨-, hpoll⟩
  · rw [hpoll]
    exact (Yields.refl c).collect _
  · rw [hpoll]
    exact .of_table (mem_of_retire? hretire)
  · rw [hpoll]
    exact .refl c

/-- To close gives every request its suitable outcome. -/
theorem yields_close (c : Correlator) : Yields c c.close := by
  have hdrain : Yields c c.drain.2 := .of_table fun _ hentry => absurd hentry List.not_mem_nil
  refine hdrain.deliverAll fun outcome houtcome => ?_
  obtain ⟨⟨id, expected⟩, hentry, rfl⟩ := List.mem_map.1 houtcome
  exact ⟨expected, hentry, nofun⟩

/-- A reply is delivered to the request that it names, as itself or as a mismatch. -/
theorem yields_receive {reply : Message}
    (hreply : Registry.standard.template? reply.tag = some reply.blank) (now : Millis) :
    Yields c (c.receive reply now).2 := by
  rcases route_cases c reply now with ⟨expected, receipt, hfound, hroute⟩ |
    ⟨receipt, table, hroute, hpending, -⟩
  · rw [receive, hroute]
    refine (Yields.of_table fun _ hentry => (List.mem_filter.1 hentry).1).deliver
      (InFlight.mem_pending_of_expected? hfound) ?_
    by_cases htag : reply.tag = expected
    · rw [if_pos htag]
      exact ⟨htag, hreply⟩
    · rw [if_neg htag]
      rintro tag ⟨⟩
  · rw [receive, hroute]
    exact .of_table fun entry hentry => hpending ▸ hentry

/-- Whatever bytes arrive, what is delivered suits an entry of the table. -/
theorem yields_receiveFrame (hregistry : c.codec.registry = .standard) (bytes : Frame.Bytes)
    (now : Millis) : Yields c (c.receiveFrame bytes now).2 := by
  rw [receiveFrame]
  cases hdecode : c.codec.decode bytes with
  | error fault => exact .refl c
  | ok reply =>
    have hempty : c.codec.registry.StartsEmpty := by
      rw [hregistry]
      exact Registry.startsEmpty_standard
    obtain ⟨layout, -, -, htells⟩ := (Codec.decode_eq_ok hempty).1 hdecode
    exact yields_receive (hregistry ▸ htells.bound) now

/-- What one use of a correlator can do. -/
inductive Step (c : Correlator) : Correlator → Prop where
  | yields {c' : Correlator} (h : Yields c c') : Step c c'
  /-- An id is used up. -/
  | skips : Step c { c with nextId := c.nextId + 1 }
  /-- A request is recorded under the next id. -/
  | enters (expected : Tag) :
      Step c (({ c with nextId := c.nextId + 1 } : Correlator).enter c.nextId expected)

/-- To issue a request is a step. -/
theorem step_issue (c : Correlator) (request : Message) : Step c (c.issue request).2.2 := by
  rcases stamp_cases c request with ⟨ready, stamped, hid, hstamp⟩ |
    ⟨fault, refused, after, hafter, hstamp⟩
  · rw [issue, hstamp]
    dsimp only
    rw [hid]
    exact .enters ready.expected
  · rw [issue, hstamp]
    rcases hafter with rfl | rfl
    · exact .yields (.refl after)
    · exact .skips

/-- Every use of a correlator is a step, or it does nothing. -/
theorem step_use (hregistry : c.codec.registry = .standard) (now : Millis) (use : Use) :
    Step c (c.use now use) := by
  cases use with
  | cancel id => exact .yields (yields_cancel c id now)
  | frame bytes => exact .yields (yields_receiveFrame hregistry bytes now)
  | abandon id => exact .yields (yields_abandon c id now)
  | close => exact .yields (yields_close c)
  | skip => exact .skips

/-! ### Ids -/

/-- The next id is one of those to come. -/
theorem coming_nextId (c : Correlator) (n : Nat) : c.Coming (n + 1) c.nextId :=
  ⟨0, Nat.succ_pos n, by simp⟩

/-- What comes after the next id was coming before. -/
theorem Coming.of_nextId (h : c'.Coming n id) (hnext : c'.nextId = c.nextId + 1) :
    c.Coming (n + 1) id := by
  obtain ⟨k, hk, rfl⟩ := h
  refine ⟨k + 1, Nat.succ_lt_succ hk, ?_⟩
  rw [hnext, Int64.ofNat_add, Int64.add_assoc, Int64.add_comm 1]
  rfl

/-- An id differs from those that come after it before the ids come round. -/
theorem add_ofNat_ne {k : Nat} (hpos : 0 < k) (hk : k < UInt64.size) (id : Int64) :
    id + Int64.ofNat k ≠ id := by
  intro h
  have hzero : Int64.ofNat k = 0 := by
    have hdiff := congrArg (· - id) h
    simpa [Int64.add_comm id] using hdiff
  have hbits := congrArg (fun word : Int64 => word.toBitVec.toNat) hzero
  simp only [Int64.toBitVec_ofNat', BitVec.toNat_ofNat] at hbits
  rw [Nat.mod_eq_of_lt hk] at hbits
  exact Nat.ne_of_gt hpos hbits

/-- The next id does not come again before the ids come round. -/
theorem not_coming_nextId (hn : n + 1 ≤ UInt64.size) (hnext : c'.nextId = c.nextId + 1) :
    ¬ c'.Coming n c.nextId := by
  rintro ⟨k, hk, hid⟩
  have hlt : k + 1 < UInt64.size := by omega
  rw [hnext, Int64.add_assoc, Int64.add_comm 1] at hid
  refine add_ofNat_ne (Nat.succ_pos k) hlt c.nextId ?_
  rw [Nat.succ_eq_add_one, Int64.ofNat_add]
  exact hid.symm

/-! ### What is kept -/

/-- The codec knows every exchange, and no request in flight and no outcome is about one of the
next `n` ids. -/
structure Sound (n : Nat) (c : Correlator) : Prop where
  registry : c.codec.registry = .standard
  pending : ∀ entry ∈ c.table.pending, ¬ c.Coming n entry.1
  delivered : ∀ due ∈ c.delivered, ¬ c.Coming n due.1

/-- The id was given to a request that expects this type of reply, and all that is known under
it suits this request. -/
structure Expects (n : Nat) (c : Correlator) (id : Int64) (expected : Tag) : Prop where
  given : ¬ c.Coming n id
  pending : ∀ tag, (id, tag) ∈ c.table.pending → tag = expected
  delivered : ∀ verdict, (id, verdict) ∈ c.delivered → Suits expected verdict

/-- An unused correlator is sound. -/
theorem Unused.sound (h : c.Unused) (n : Nat) : Sound n c where
  registry := h.registry
  pending entry hentry := by
    rw [h.pending] at hentry
    cases hentry
  delivered due hdue := by
    rw [h.delivered] at hdue
    cases hdue

/-- No id is given out where the next one is the same. -/
theorem given_of_eq (h : c'.nextId = c.nextId) : c.given c' = 0 := if_pos h

/-- One id is given out where the next one is one higher. -/
theorem given_of_succ (h : c'.nextId = c.nextId + 1) : c.given c' = 1 := by
  have hone : (1 : Nat) < UInt64.size := by decide
  refine if_neg fun heq => ?_
  exact add_ofNat_ne Nat.one_pos hone c.nextId (h.symm.trans heq)

/-- What comes after a use was coming before it. -/
theorem Step.coming (h : Step c c') (hcoming : c'.Coming m id) : c.Coming (c.given c' + m) id := by
  cases h with
  | yields h =>
    rw [given_of_eq h.nextId, Nat.zero_add]
    rwa [Coming, h.nextId] at hcoming
  | skips =>
    rw [given_of_succ rfl, Nat.add_comm]
    exact hcoming.of_nextId rfl
  | enters expected =>
    rw [given_of_succ rfl, Nat.add_comm]
    exact hcoming.of_nextId rfl

/-- The entry of a request that is recorded, and the others. -/
theorem mem_pending_enter {entry : Int64 × Tag}
    (h : entry ∈ (c.enter id expected).table.pending) :
    entry = (id, expected) ∨ (entry ∈ c.table.pending ∧ entry.1 ≠ id) := by
  rcases List.mem_append.1 h with hold | hnew
  · obtain ⟨hmem, hne⟩ := List.mem_filter.1 hold
    exact .inr ⟨hmem, by simpa using hne⟩
  · exact .inl (List.mem_singleton.1 hnew)

/-- A sound correlator stays so while ids are left. -/
theorem Sound.step (h : Sound (c.given c' + m) c) (hstep : Step c c')
    (hfew : c.given c' + m ≤ UInt64.size) : Sound m c' := by
  have hcoming : ∀ {id}, ¬ c.Coming (c.given c' + m) id → ¬ c'.Coming m id :=
    fun hold hnew => hold (hstep.coming hnew)
  cases hstep with
  | yields hyields =>
    refine ⟨hyields.codec ▸ h.registry,
      fun entry hentry => hcoming (h.pending entry (hyields.pending entry hentry)),
      fun due hdue => ?_⟩
    rcases hyields.delivered due hdue with hold | ⟨expected, hentry, -⟩
    · exact hcoming (h.delivered due hold)
    · exact hcoming (h.pending _ hentry)
  | skips =>
    exact ⟨h.registry, fun entry hentry => hcoming (h.pending entry hentry),
      fun due hdue => hcoming (h.delivered due hdue)⟩
  | enters expected =>
    rw [given_of_succ rfl, Nat.add_comm] at hfew
    refine ⟨h.registry, fun entry hentry => ?_, fun due hdue => hcoming (h.delivered due hdue)⟩
    rcases mem_pending_enter hentry with rfl | ⟨hold, -⟩
    · exact not_coming_nextId hfew rfl
    · exact hcoming (h.pending entry hold)

/-- A request that is recorded under the next id expects what it is recorded with. -/
theorem Sound.expects (h : Sound (m + 1) c) (hfew : m + 1 ≤ UInt64.size) (expected : Tag) :
    Expects m (({ c with nextId := c.nextId + 1 } : Correlator).enter c.nextId expected) c.nextId
      expected where
  given := not_coming_nextId hfew rfl
  pending tag hentry := by
    rcases mem_pending_enter hentry with heq | ⟨-, hne⟩
    · exact congrArg Prod.snd heq
    · exact absurd rfl hne
  delivered verdict hdue := absurd (coming_nextId c m) (h.delivered _ hdue)

/-- A request is expected until its reply has come. -/
theorem Expects.step (h : Expects (c.given c' + m) c id expected) (hstep : Step c c') :
    Expects m c' id expected := by
  have hgiven : ¬ c'.Coming m id := fun hnew => h.given (hstep.coming hnew)
  cases hstep with
  | yields hyields =>
    refine ⟨hgiven, fun tag hentry => h.pending tag (hyields.pending _ hentry),
      fun verdict hdue => ?_⟩
    rcases hyields.delivered _ hdue with hold | ⟨tag, hentry, hsuits⟩
    · exact h.delivered verdict hold
    · exact h.pending tag hentry ▸ hsuits
  | skips => exact ⟨hgiven, h.pending, h.delivered⟩
  | enters tag =>
    refine ⟨hgiven, fun other hentry => ?_, h.delivered⟩
    rcases mem_pending_enter hentry with heq | ⟨hold, -⟩
    · -- the id that is given out now was still coming
      have hid : id = c.nextId := congrArg Prod.fst heq
      rw [given_of_succ rfl, Nat.add_comm, hid] at h
      exact absurd (coming_nextId c m) h.given
    · exact h.pending other hold

/-- Whoever waits under an id is told what suits its request. -/
theorem Expects.poll (h : Expects n c id expected) {deadline : Option Millis} {now : Millis}
    {clockFirst : Bool} {verdict : Verdict}
    (hpoll : (c.poll id deadline now clockFirst).1 = some verdict) : Suits expected verdict := by
  rcases poll_cases c id deadline now clockFirst with ⟨collected, hlook, heq⟩ |
    ⟨table, -, -, heq⟩ | ⟨-, heq⟩
  · rw [heq] at hpoll
    cases hpoll
    exact h.delivered verdict (mem_of_lookup hlook)
  · rw [heq] at hpoll
    cases hpoll
    exact nofun
  · rw [heq] at hpoll
    cases hpoll

end Parley.Correlator
