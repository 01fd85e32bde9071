/-
# What a direction of a link carries

While neither end of a direction is gone, what has been sent arrives whole and in order.
A channel carries its frames one by one.  A pipe carries their bytes, some of which the
reader may hold already, and behind them what the sender whose turn it is has written of
its frame.  To send never fails, and to receive gives the first frame or nothing.
-/

import Mathlib.Logic.Function.Basic
import Parley.Link
import Parley.Proofs.Frame.Stream

namespace Parley.Link

open Parley.Frame (Bytes Whole)

variable {held rest : Bytes} {frames : List Bytes} {written : TaskId → Bytes} {t : TaskId}
  {maxSize : Nat}

/-- The senders that wait for their turn or have begun to send, the first one first. -/
def Lane.queueing : Lane → List TaskId
  | .channel c => c.waiting
  | .pipe p => p.writers

/-- An open channel with these frames, nobody having sent a part of one. -/
structure Channel.Carries (c : Channel) (frames : List Bytes) (written : TaskId → Bytes) :
    Prop where
  queue : c.queue = frames
  written : ∀ t, written t = []
  sender : c.senderGone = false
  receiver : c.receiverGone = false
  capacity : 0 < c.capacity

/-- What the sender whose turn it is has written of its frame. -/
def Pipe.begun (p : Pipe) (written : TaskId → Bytes) : Bytes :=
  match p.writers.head? with
  | some t => written t
  | none => []

/-- An open pipe with the bytes of these frames and of a frame that was begun. -/
structure Pipe.Carries (p : Pipe) (held : Bytes) (frames : List Bytes)
    (written : TaskId → Bytes) : Prop where
  bytes : held ++ p.buffer = frames.flatten ++ p.begun written
  written : ∀ t, written t ≠ [] → p.writers.head? = some t
  sender : p.senderGone = false
  receiver : p.receiverGone = false
  capacity : 0 < p.capacity

/-- An open direction with these frames; `held` is what its reader holds of them, and
`written` is what each sender has written of its own frame. -/
def Lane.Carries (lane : Lane) (held : Bytes) (frames : List Bytes) (written : TaskId → Bytes) :
    Prop :=
  match lane with
  | .channel c => held = [] ∧ c.Carries frames written
  | .pipe p => p.Carries held frames written

/-- Whoever has written something waits to write the rest. -/
theorem Lane.Carries.mem_queueing {lane : Lane} (h : lane.Carries held frames written)
    (hwritten : written t ≠ []) : t ∈ lane.queueing := by
  cases lane with
  | channel c => exact absurd (h.2.written t) hwritten
  | pipe p => exact List.mem_of_mem_head? (Pipe.Carries.written h t hwritten)

/-! ### Sending -/

/-- The senders after one has joined them. -/
def join (queue : List TaskId) (t : TaskId) : List TaskId :=
  if t ∈ queue then queue else queue ++ [t]

/-- Whoever joins a queue and leaves it again leaves the others. -/
theorem filter_join (queue : List TaskId) (t : TaskId) :
    (join queue t).filter (· != t) = queue.filter (· != t) := by
  rw [join]
  split
  · rfl
  · rw [List.filter_append]
    simp

/-- To send on a channel puts the frame behind the others, or the sender waits. -/
theorem Channel.Carries.send_cases {c : Channel} (h : c.Carries frames written) (t : TaskId)
    (frame : Bytes) :
    (∃ c', c.send t frame = (.sent, c') ∧ c'.Carries (frames ++ [frame]) written ∧
      c'.waiting = c.waiting.filter (· != t)) ∨
    (∃ c', c.send t frame = (.blocked frame, c') ∧ c'.Carries frames written ∧
      c'.waiting = join c.waiting t ∧ c'.queue = c.queue ∧ (t ∈ c.waiting → c' = c)) := by
  have hopen : ¬ c.receiverGone = true := by simp [h.receiver]
  simp only [send, if_neg hopen]
  by_cases hroom : c.waiting.findIdx (· == t) < c.room
  · rw [if_pos hroom]
    refine Or.inl ⟨_, rfl, ⟨?_, h.written, h.sender, h.receiver, h.capacity⟩, rfl⟩
    rw [h.queue]
  · rw [if_neg hroom, join]
    by_cases hmem : t ∈ c.waiting
    · rw [if_pos hmem, if_pos hmem]
      exact Or.inr ⟨c, rfl, h, rfl, rfl, fun _ => rfl⟩
    · rw [if_neg hmem, if_neg hmem]
      exact Or.inr ⟨_, rfl, ⟨h.queue, h.written, h.sender, h.receiver, h.capacity⟩, rfl, rfl,
        fun hmem' => absurd hmem' hmem⟩

namespace Pipe

/-- The pipe with a sender among its senders. -/
def joined (p : Pipe) (t : TaskId) : Pipe :=
  if t ∈ p.writers then p else { p with writers := p.writers ++ [t] }

/-- A sender is among the writers already, or it joins them. -/
theorem joined_cases (p : Pipe) (t : TaskId) :
    p.joined t = p ∧ t ∈ p.writers ∨
      t ∉ p.writers ∧ p.joined t = { p with writers := p.writers ++ [t] } := by
  by_cases hmem : t ∈ p.writers
  · exact Or.inl ⟨if_pos hmem, hmem⟩
  · exact Or.inr ⟨hmem, if_neg hmem⟩

/-- A sender that joins has written nothing, so it changes nothing of what is carried. -/
theorem Carries.joined {p : Pipe} (h : p.Carries held frames written) (t : TaskId) :
    (p.joined t).Carries held frames written := by
  rcases p.joined_cases t with ⟨heq, -⟩ | ⟨-, heq⟩
  · rw [heq]
    exact h
  · rw [heq]
    cases hwriters : p.writers with
    | nil =>
      have hnone : ∀ u, written u = [] := by
        intro u
        by_contra hne
        have hhead := h.written u hne
        rw [hwriters] at hhead
        cases hhead
      refine ⟨?_, fun u hne => absurd (hnone u) hne, h.sender, h.receiver, h.capacity⟩
      rw [h.bytes]
      simp [begun, hwriters, hnone]
    | cons first others =>
      refine ⟨?_, fun u hne => ?_, h.sender, h.receiver, h.capacity⟩
      · rw [h.bytes]
        simp [begun, hwriters]
      · have hhead := h.written u hne
        rw [hwriters] at hhead
        exact hhead

/-- What a sender does whose turn it is: it writes its frame to the end, or it writes a
part of what is left and fills the pipe. -/
theorem send_of_head {p : Pipe} (h : p.Carries held frames written)
    (hhead : p.writers.head? = some t) (hrest : rest ≠ []) :
    (p.send t rest = (.sent, { p.leave t with buffer := p.buffer ++ rest }) ∧
        rest.length ≤ p.room) ∨
      p.send t rest =
          (.blocked (rest.drop p.room), { p with buffer := p.buffer ++ rest.take p.room }) ∧
        p.room < rest.length := by
  have hmem : t ∈ p.writers := List.mem_of_mem_head? hhead
  have hempty : ¬ rest.isEmpty = true := by simpa using hrest
  have hopen : ¬ p.receiverGone = true := by simp [h.receiver]
  simp only [send, if_pos hmem, hhead, ne_eq, not_true_eq_false, if_false, if_neg hempty,
    if_neg hopen]
  by_cases hroom : rest.length ≤ p.room
  · exact Or.inl ⟨if_pos hroom, hroom⟩
  · exact Or.inr ⟨if_neg hroom, Nat.lt_of_not_le hroom⟩

/-- To send is to join the senders first. -/
theorem send_joined (p : Pipe) (t : TaskId) (rest : Bytes) :
    p.send t rest = (p.joined t).send t rest := by
  have hmem : t ∈ (p.joined t).writers := by
    rcases p.joined_cases t with ⟨heq, hmem⟩ | ⟨-, heq⟩
    · rw [heq]
      exact hmem
    · rw [heq]
      exact List.mem_append_right _ (List.mem_singleton.2 rfl)
  have hjoined : (p.joined t).joined t = p.joined t := if_pos hmem
  unfold send
  simp only [← joined.eq_1, hjoined]

/-- What is begun is the frame of the first writer. -/
theorem begun_of_head {p : Pipe} (hhead : p.writers.head? = some t) (written : TaskId → Bytes) :
    p.begun written = written t := by
  rw [begun, hhead]

/-- Nobody but the sender whose turn it is has written anything. -/
theorem Carries.written_of_ne {p : Pipe} (h : p.Carries held frames written) {u : TaskId}
    (hhead : p.writers.head? = some t) (hut : u ≠ t) : written u = [] := by
  by_contra hne
  have hother := h.written u hne
  rw [hhead] at hother
  exact hut (Option.some.inj hother).symm

/-- A frame that is written to its end is carried behind the others. -/
theorem Carries.sent {p : Pipe} (h : p.Carries held frames written)
    (hhead : p.writers.head? = some t) :
    ({ p.leave t with buffer := p.buffer ++ rest } : Pipe).Carries held
      (frames ++ [written t ++ rest]) (Function.update written t []) := by
  have hnone : ∀ u, Function.update written t [] u = [] := by
    intro u
    by_cases hut : u = t
    · rw [hut, Function.update_self]
    · rw [Function.update_of_ne hut]
      exact h.written_of_ne hhead hut
  refine ⟨?_, fun u hne => absurd (hnone u) hne, h.sender, h.receiver, h.capacity⟩
  have hbegun : begun { p.leave t with buffer := p.buffer ++ rest }
      (Function.update written t []) = [] := by
    rw [begun]
    split
    · exact hnone _
    · rfl
  have hbytes := h.bytes
  rw [begun_of_head hhead] at hbytes
  rw [hbegun, List.append_nil, List.flatten_append, List.flatten_singleton,
    ← List.append_assoc, ← List.append_assoc, hbytes]

/-- A part of a frame that is written is carried behind what was written before. -/
theorem Carries.blocked {p : Pipe} (h : p.Carries held frames written)
    (hhead : p.writers.head? = some t) (part : Bytes) :
    ({ p with buffer := p.buffer ++ part } : Pipe).Carries held frames
      (Function.update written t (written t ++ part)) := by
  refine ⟨?_, fun u hne => ?_, h.sender, h.receiver, h.capacity⟩
  · have hbytes := h.bytes
    rw [begun_of_head hhead] at hbytes
    have hbegun : begun { p with buffer := p.buffer ++ part }
        (Function.update written t (written t ++ part)) = written t ++ part := by
      simp only [begun, hhead, Function.update_self]
    rw [hbegun, ← List.append_assoc, hbytes, List.append_assoc]
  · by_cases hut : u = t
    · rw [hut]
      exact hhead
    · rw [Function.update_of_ne hut] at hne
      exact absurd (h.written_of_ne hhead hut) hne

/-- To send on a pipe writes all that is left of the frame, or some of it. -/
theorem send_cases {p : Pipe} (h : p.Carries held frames written) (t : TaskId)
    (hrest : rest ≠ []) :
    (∃ p', p.send t rest = (.sent, p') ∧
      p'.Carries held (frames ++ [written t ++ rest]) (Function.update written t []) ∧
      p'.writers = p.writers.filter (· != t)) ∨
    (∃ part rest' p', rest = part ++ rest' ∧ rest' ≠ [] ∧
      p.send t rest = (.blocked rest', p') ∧
      p'.Carries held frames (Function.update written t (written t ++ part)) ∧
      p'.writers = join p.writers t ∧
      (part = [] → p'.buffer = p.buffer ∧ (t ∈ p.writers → p' = p))) := by
  have hjoined := h.joined t
  have hwriters : (p.joined t).writers = join p.writers t := by
    rw [joined, join]
    split <;> rfl
  have hbuffer : (p.joined t).buffer = p.buffer := by
    rcases p.joined_cases t with ⟨heq, -⟩ | ⟨-, heq⟩ <;> rw [heq]
  have hsame : t ∈ p.writers → p.joined t = p := fun hmem => if_pos hmem
  rw [send_joined]
  by_cases hhead : (p.joined t).writers.head? = some t
  · rcases send_of_head hjoined hhead hrest with ⟨hsend, -⟩ | ⟨hsend, hroom⟩
    · refine Or.inl ⟨_, hsend, hjoined.sent hhead, ?_⟩
      rw [← filter_join, ← hwriters]
      rfl
    · refine Or.inr ⟨rest.take (p.joined t).room, rest.drop (p.joined t).room, _,
        (List.take_append_drop _ _).symm, ?_, hsend, hjoined.blocked hhead _, hwriters,
        fun hpart => ⟨?_, fun hmem => ?_⟩⟩
      · intro hnil
        exact Nat.not_le.2 hroom (List.drop_eq_nil_iff.1 hnil)
      · rw [hpart, List.append_nil, hbuffer]
      · rw [hpart, List.append_nil, hsame hmem]
  · have hmem : t ∈ (p.joined t).writers := by
      rcases p.joined_cases t with ⟨heq, hmem⟩ | ⟨-, heq⟩
      · rwa [heq]
      · rw [heq]
        exact List.mem_append_right _ (List.mem_singleton.2 rfl)
    have hsend : (p.joined t).send t rest = (.blocked rest, p.joined t) := by
      simp only [send, if_pos hmem, ne_eq, hhead, not_false_eq_true, if_true]
    refine Or.inr ⟨[], rest, _, rfl, hrest, hsend, ?_, hwriters, fun _ => ⟨hbuffer, hsame⟩⟩
    rw [List.append_nil, Function.update_eq_self]
    exact hjoined

end Pipe

/-- To send puts the whole frame behind the others, or some more of it. -/
theorem Lane.Carries.send_cases {lane : Lane} (h : lane.Carries held frames written) (t : TaskId)
    (hrest : rest ≠ []) :
    (∃ lane', lane.send t rest = (.sent, lane') ∧
      lane'.Carries held (frames ++ [written t ++ rest]) (Function.update written t []) ∧
      lane'.queueing = lane.queueing.filter (· != t)) ∨
    (∃ part rest' lane', rest = part ++ rest' ∧ rest' ≠ [] ∧
      lane.send t rest = (.blocked rest', lane') ∧
      lane'.Carries held frames (Function.update written t (written t ++ part)) ∧
      lane'.queueing = join lane.queueing t ∧
      (part = [] → lane'.load = lane.load ∧ (t ∈ lane.queueing → lane' = lane))) := by
  cases lane with
  | channel c =>
    obtain ⟨hheld, hcarries⟩ := h
    have hnil : written t = [] := hcarries.written t
    rcases hcarries.send_cases t rest with ⟨c', hsend, hc', hwaiting⟩ |
      ⟨c', hsend, hc', hwaiting, hqueue, hsame⟩
    · refine Or.inl ⟨.channel c', ?_, ⟨hheld, ?_⟩, hwaiting⟩
      · simp only [send, hsend]
      · rw [← hnil, Function.update_eq_self, hnil]
        exact hc'
    · refine Or.inr ⟨[], rest, .channel c', rfl, hrest, ?_, ⟨hheld, ?_⟩, hwaiting,
        fun _ => ⟨congrArg List.length hqueue, fun hmem => congrArg channel (hsame hmem)⟩⟩
      · simp only [send, hsend]
      · rw [List.append_nil, Function.update_eq_self]
        exact hc'
  | pipe p =>
    rcases Pipe.send_cases h t hrest with ⟨p', hsend, hp', hwriters⟩ |
      ⟨part, rest', p', hsplit, hrest', hsend, hp', hwriters, hnone⟩
    · refine Or.inl ⟨.pipe p', ?_, hp', hwriters⟩
      simp only [send, hsend]
    · refine Or.inr ⟨part, rest', .pipe p', hsplit, hrest', ?_, hp', hwriters, fun hpart => ?_⟩
      · simp only [send, hsend]
      · exact ⟨congrArg List.length (hnone hpart).1,
          fun hmem => congrArg pipe ((hnone hpart).2 hmem)⟩

/-- What was sent whole is behind the others. -/
theorem Lane.Carries.of_sent {lane lane' : Lane} (h : lane.Carries held frames written)
    (hrest : rest ≠ []) (hsend : lane.send t rest = (.sent, lane')) :
    lane'.Carries held (frames ++ [written t ++ rest]) (Function.update written t []) ∧
      lane'.queueing = lane.queueing.filter (· != t) := by
  rcases h.send_cases t hrest with ⟨lane', hsend', hcarries, hqueueing⟩ |
    ⟨part, rest', lane', -, -, hsend', -⟩
  · rw [hsend] at hsend'
    cases hsend'
    exact ⟨hcarries, hqueueing⟩
  · rw [hsend] at hsend'
    cases hsend'

/-- Of what could not be sent whole some more has been written. -/
theorem Lane.Carries.of_blocked {lane lane' : Lane} {rest' : Bytes}
    (h : lane.Carries held frames written) (hrest : rest ≠ [])
    (hsend : lane.send t rest = (.blocked rest', lane')) :
    ∃ part, rest = part ++ rest' ∧ rest' ≠ [] ∧
      lane'.Carries held frames (Function.update written t (written t ++ part)) ∧
      lane'.queueing = join lane.queueing t ∧
      (part = [] → lane'.load = lane.load ∧ (t ∈ lane.queueing → lane' = lane)) := by
  rcases h.send_cases t hrest with ⟨lane', hsend', -⟩ |
    ⟨part, rest', lane', hsplit, hrest', hsend', hcarries, hqueueing, hnone⟩
  · rw [hsend] at hsend'
    cases hsend'
  · rw [hsend] at hsend'
    cases hsend'
    exact ⟨part, hsplit, hrest', hcarries, hqueueing, hnone⟩

/-! ### Receiving -/

/-- What a reader holds and finds in a pipe without a whole frame in it is no frame yet. -/
theorem Pipe.nextFrame_begun {p : Pipe} 
    (hwritten : ∀ t, written t ≠ [] → ∃ rest, rest ≠ [] ∧ Whole maxSize (written t ++ rest)) :
    (Frame.Stream.nextFrame maxSize ⟨p.begun written, .closed⟩).1 = .ok none := by
  rw [begun]
  cases p.writers.head? with
  | none => rfl
  | some t =>
    by_cases hnil : written t = []
    · simp only [hnil]
      rfl
    · obtain ⟨rest, hrest, hwhole⟩ := hwritten t hnil
      exact Frame.Stream.nextFrame_part hwhole hrest

/-- To receive takes the first frame off, or gives nothing when there is none; then what has
come of the next frame is held. -/
theorem Lane.Carries.receive_cases {lane : Lane} (h : lane.Carries held frames written)
    (hframes : ∀ frame ∈ frames, Whole maxSize frame)
    (hwritten : ∀ t, written t ≠ [] → ∃ rest, rest ≠ [] ∧ Whole maxSize (written t ++ rest)) :
    (∃ frame others lane', frames = frame :: others ∧
      lane.receive maxSize held = (.frame frame, [], lane') ∧ lane'.Carries [] others written ∧
      lane'.queueing = lane.queueing) ∨
    (∃ held' lane', frames = [] ∧ lane.receive maxSize held = (.nothing, held', lane') ∧
      lane'.Carries held' [] written ∧ lane'.queueing = lane.queueing ∧ lane'.load = 0 ∧
      (held' = held ∧ lane' = lane ∨ lane'.load < lane.load)) := by
  cases lane with
  | channel c =>
    obtain ⟨rfl, hcarries⟩ := h
    have hqueue := hcarries.queue
    cases frames with
    | nil =>
      refine Or.inr ⟨[], .channel c, rfl, ?_, ⟨rfl, hcarries⟩, rfl, congrArg List.length hqueue,
        Or.inl ⟨rfl, rfl⟩⟩
      simp only [receive, Channel.receive, hqueue, hcarries.sender]
      rfl
    | cons frame others =>
      refine Or.inl ⟨frame, others, .channel { c with queue := others }, rfl, ?_,
        ⟨rfl, rfl, hcarries.written, hcarries.sender, hcarries.receiver, hcarries.capacity⟩, rfl⟩
      simp only [receive, Channel.receive, hqueue]
  | pipe p =>
    have hbytes : held ++ p.buffer = frames.flatten ++ p.begun written := h.bytes
    cases frames with
    | nil =>
      have hnext := Pipe.nextFrame_begun (p := p) hwritten
      rw [List.flatten_nil, List.nil_append] at hbytes
      rw [← hbytes] at hnext
      refine Or.inr ⟨held ++ p.buffer, .pipe { p with buffer := [] }, rfl, ?_, ?_, rfl, rfl, ?_⟩
      · simp only [receive, Pipe.receive]
        split
        next heq => rw [heq] at hnext; cases hnext
        next heq => rw [heq] at hnext; cases hnext
        next => rw [h.sender]; rfl
      · refine ⟨?_, h.written, h.sender, h.receiver, h.capacity⟩
        rw [List.append_nil, hbytes]
        rfl
      · cases hbuffer : p.buffer with
        | nil =>
          left
          rw [← hbuffer]
          exact ⟨by rw [hbuffer, List.append_nil], rfl⟩
        | cons byte bytes =>
          right
          simp [load, hbuffer]
    | cons frame others =>
      have hwhole := hframes frame List.mem_cons_self
      have hnext := Frame.Stream.nextFrame_append hwhole (others.flatten ++ p.begun written)
      rw [List.flatten_cons, List.append_assoc] at hbytes
      rw [← hbytes] at hnext
      refine Or.inl ⟨frame, others, .pipe { p with buffer := others.flatten ++ p.begun written },
        rfl, ?_, ⟨rfl, h.written, h.sender, h.receiver, h.capacity⟩, rfl⟩
      simp only [receive, Pipe.receive, hnext]

/-! ### Room -/

/-- When nothing can be received, the sender whose turn it is, or a new sender if nobody
has come before, gets something off its hands. -/
theorem Lane.Carries.exists_moves {lane : Lane} (h : lane.Carries held frames written)
    (hload : lane.load = 0) (t : TaskId) :
    ∃ u, (u ∈ lane.queueing ∨ u = t) ∧
      ∀ rest lane', rest ≠ [] → lane.send u rest ≠ (.blocked rest, lane') := by
  cases lane with
  | channel c =>
    obtain ⟨-, hcarries⟩ := h
    have hopen : ¬ c.receiverGone = true := by simp [hcarries.receiver]
    have hroom : 0 < c.room := by
      have hqueue : c.queue.length = 0 := hload
      rw [Channel.room, hqueue]
      exact hcarries.capacity
    have hmoves : ∀ u, c.waiting.findIdx (· == u) = 0 →
        ∀ rest lane', rest ≠ [] → (channel c).send u rest ≠ (.blocked rest, lane') := by
      intro u hfirst rest lane' _ hsend
      simp only [send, Channel.send, if_neg hopen, hfirst, if_pos hroom] at hsend
      cases hsend
    cases hwaiting : c.waiting with
    | nil => exact ⟨t, Or.inr rfl, hmoves t (by rw [hwaiting]; rfl)⟩
    | cons u others =>
      refine ⟨u, Or.inl ?_, hmoves u (by rw [hwaiting]; simp [List.findIdx_cons])⟩
      rw [queueing, hwaiting]
      exact List.mem_cons_self
  | pipe p =>
    have hroom : 0 < p.room := by
      have hbuffer : p.buffer.length = 0 := hload
      rw [Pipe.room, hbuffer]
      exact Pipe.Carries.capacity h
    have hmoves : ∀ u, (p.joined u).writers.head? = some u →
        ∀ rest lane', rest ≠ [] → (pipe p).send u rest ≠ (.blocked rest, lane') := by
      intro u hhead rest lane' hrest hsend
      have hsame : (p.joined u).room = p.room := by
        rcases p.joined_cases u with ⟨heq, -⟩ | ⟨-, heq⟩
        · rw [heq]
        · rw [heq]
          rfl
      simp only [send, p.send_joined u rest] at hsend
      rcases Pipe.send_of_head (Pipe.Carries.joined h u) hhead hrest with ⟨heq, -⟩ | ⟨heq, -⟩
      · rw [heq] at hsend
        cases hsend
      · rw [heq, hsame] at hsend
        have hdrop : rest.drop p.room = rest := by
          injection hsend with hattempt
          injection hattempt
        have hlength := congrArg List.length hdrop
        have hpos := List.length_pos_iff.2 hrest
        rw [List.length_drop] at hlength
        omega
    cases hwriters : p.writers with
    | nil =>
      refine ⟨t, Or.inr rfl, hmoves t ?_⟩
      simp [Pipe.joined, hwriters]
    | cons u others =>
      refine ⟨u, Or.inl ?_, hmoves u ?_⟩
      · rw [queueing, hwriters]
        exact List.mem_cons_self
      · simp [Pipe.joined, hwriters]

/-! ### What is on its way -/

/-- A frame that was sent is the last one on the channel. -/
theorem Channel.queue_of_send {c : Channel} {frame : Bytes} (h : (c.send t frame).1 = .sent) :
    (c.send t frame).2.queue = c.queue ++ [frame] := by
  unfold send at h ⊢
  by_cases hgone : c.receiverGone = true
  · rw [if_pos hgone] at h
    cases h
  · rw [if_neg hgone] at h ⊢
    by_cases hroom : c.waiting.findIdx (· == t) < c.room
    · simp only [if_pos hroom]
    · simp only [if_neg hroom] at h
      split at h <;> cases h

/-- Bytes that were sent are the last ones in the pipe. -/
theorem Pipe.buffer_of_send {p : Pipe} {rest : Bytes} (h : (p.send t rest).1 = .sent) :
    (p.send t rest).2.buffer = p.buffer ++ rest := by
  have hjoined : (p.joined t).buffer = p.buffer := by
    rcases p.joined_cases t with ⟨heq, -⟩ | ⟨-, heq⟩ <;> rw [heq]
  unfold send at h ⊢
  rw [← joined.eq_1] at h ⊢
  simp only at h ⊢
  by_cases hturn : (p.joined t).writers.head? ≠ some t
  · rw [if_pos hturn] at h
    cases h
  · rw [if_neg hturn] at h ⊢
    by_cases hempty : rest.isEmpty = true
    · rw [if_pos hempty, List.isEmpty_iff.1 hempty, List.append_nil]
      exact hjoined
    · rw [if_neg hempty] at h ⊢
      by_cases hgone : (p.joined t).receiverGone = true
      · rw [if_pos hgone] at h
        cases h
      · rw [if_neg hgone] at h ⊢
        by_cases hroom : rest.length ≤ (p.joined t).room
        · rw [if_pos hroom, ← hjoined]
        · rw [if_neg hroom] at h
          cases h

/-- What a lane takes as a whole comes behind what it has. -/
theorem Lane.bytes_of_send {lane : Lane} {rest : Bytes} (h : (lane.send t rest).1 = .sent) :
    (lane.send t rest).2.bytes = lane.bytes ++ rest := by
  cases lane with
  | channel c =>
    change (c.send t rest).2.queue.flatten = _
    rw [Channel.queue_of_send h, List.flatten_append, List.flatten_singleton]
    rfl
  | pipe p => exact Pipe.buffer_of_send h
@[simp]
theorem Lane.bytes_closeSender (lane : Lane) : lane.closeSender.bytes = lane.bytes := by
  cases lane <;> rfl

/-- A lane refuses a frame only when the connection is closed or broken. -/
theorem Lane.refused_of_send {lane : Lane} {rest : Bytes} {fault : Fault}
    (h : (lane.send t rest).1 = .refused fault) :
    fault = .connectionClosed ∨ fault = Pipe.broken := by
  cases lane with
  | channel c =>
    change (c.send t rest).1 = _ at h
    unfold Channel.send at h
    split at h
    · cases h
      exact .inl rfl
    · dsimp only at h
      split at h
      · cases h
      · split at h <;> cases h
  | pipe p =>
    change (p.send t rest).1 = _ at h
    unfold Pipe.send at h
    dsimp only at h
    generalize (if t ∈ p.writers then p else { p with writers := p.writers ++ [t] }) = joined at h
    split at h
    · cases h
    · split at h
      · cases h
      · split at h
        · cases h
          exact .inr rfl
        · split at h <;> cases h

/-! ### Links before anything was sent -/

/-- An open link that can carry something carries nothing at first, and nobody waits. -/
theorem carries_outward {l : Link}
    (h : (∃ capacity, l = .channels capacity) ∨ ∃ capacity, 0 < capacity ∧ l = .stream capacity)
    (side : Side) :
    (l.outward side).Carries [] [] (fun _ => []) ∧ (l.outward side).queueing = [] := by
  rcases h with ⟨capacity, rfl⟩ | ⟨capacity, hpos, rfl⟩
  · have hcapacity : 0 < max capacity 1 := Nat.lt_of_lt_of_le Nat.one_pos (Nat.le_max_right _ _)
    cases side <;> exact ⟨⟨rfl, rfl, fun _ => rfl, rfl, rfl, hcapacity⟩, rfl⟩
  · cases side <;> exact ⟨⟨rfl, fun _ hne => absurd rfl hne, rfl, rfl, hpos⟩, rfl⟩

end Parley.Link
