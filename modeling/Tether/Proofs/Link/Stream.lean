import Tether.Proofs.Link.Time

/-!
# What a link hands to its peer

Over a byte stream the peer gets the payloads of the commits that handed them over, whole
and in order, and after them at most a first part of one more, of the commit that the
transport failed. Nothing can follow that part: the link is closed then and does not touch
the network again. The life of a link may be interleaved with anything else on the network
that leaves its own stream alone.
-/
namespace Tether.Link

open Holdings (Established)

variable {σ : Type} {net : Fabric σ} {handed : Nat → σ → List UInt8}

/-- The payload of a commit that handed it over whole. Besides commits that returned ok these
are the ones that panicked, since the time is added after the bytes are sent. -/
def delivered? : Deed × Outcome Unit → Option (List UInt8)
  | (.commit bytes, .done _) => some bytes
  | (.commit bytes, .panicked _) => some bytes
  | _ => none

/-- The payload of a commit that returned ok. -/
def accepted? : Deed × Outcome Unit → Option (List UInt8)
  | (.commit bytes, .done _) => some bytes
  | _ => none

/-- The payload of a commit that the transport failed, by a fault of the system. A commit that
was rejected sent nothing. -/
def torn? : Deed × Outcome Unit → Option (List UInt8)
  | (.commit bytes, .failed (.io _)) => some bytes
  | _ => none

/-- The world after the last deed of a life, or a given one if there was none. -/
def leaves (net : Fabric σ) (l : Link) (w : World σ) : List (World σ × Deed) → World σ
  | [] => w
  | (found, d) :: rest =>
    (l.perform net d found).2.1.leaves net (l.perform net d found).2.2 rest

/-- Only the link hands bytes to its peer: each deed finds the stream as the one before it
left it. -/
def Alone (net : Fabric σ) (stream : σ → List UInt8) (l : Link) (w : World σ) :
    List (World σ × Deed) → Prop
  | [] => True
  | (found, d) :: rest =>
    stream found.net = stream w.net ∧
      (l.perform net d found).2.1.Alone net stream (l.perform net d found).2.2 rest

/-- Deeds in a row, each in the world that the one before it left. -/
def inTurn (net : Fabric σ) (l : Link) (w : World σ) : List Deed → List (World σ × Deed)
  | [] => []
  | d :: rest => (w, d) :: (l.perform net d w).2.1.inTurn net (l.perform net d w).2.2 rest

/-- Deeds in a row leave no gap in which anyone else could write. -/
theorem inTurn_alone (net : Fabric σ) (stream : σ → List UInt8) (deeds : List Deed) (l : Link)
    (w : World σ) : l.Alone net stream w (l.inTurn net w deeds) := by
  induction deeds generalizing l w with
  | nil => trivial
  | cons d rest ih => exact ⟨rfl, ih _ _⟩

/-- Bytes are handed over whole if there was no fault, and otherwise up to some point. -/
theorem send_streams (streams : net.Streams handed) (t : Transport) (bytes : List UInt8)
    (w : World σ) :
    match net.sendFault? t.socket bytes w.net with
    | none => handed t.socket (t.send net bytes w).2.net = handed t.socket w.net ++ bytes
    | some _ => ∃ part, part <+: bytes ∧
        handed t.socket (t.send net bytes w).2.net = handed t.socket w.net ++ part := by
  have written := streams.written t.socket bytes w.net
  have broken := streams.broken t.socket bytes w.net
  unfold Transport.send Transport.write Fabric.sendFault?
  generalize net.write t.socket bytes w.net = answer at written broken
  obtain ⟨fault | _, after⟩ := answer
  · exact broken fault rfl
  · have whole := written rfl
    have flushed := streams.flushed t.socket after
    simp only [Transport.answered, Transport.flush]
    generalize net.flush t.socket after = answer at flushed
    obtain ⟨fault | _, later⟩ := answer
    · exact ⟨bytes, List.prefix_refl bytes, flushed.trans whole⟩
    · exact flushed.trans whole

theorem shutdown_stream (streams : net.Streams handed) (t : Transport) (w : World σ) :
    handed t.socket (t.shutdown net w).2.net = handed t.socket w.net := by
  have shut := streams.shut t.socket w.net
  unfold Transport.shutdown Transport.answered
  split
  next s answered => rwa [answered] at shut
  next fault s answered => rwa [answered] at shut

/-- A deed on a closed link does nothing in the world, and its answer shows that. -/
theorem perform_of_closed (net : Fabric σ) (d : Deed) (l : Link) (w : World σ)
    (state : l.state = .closed) :
    (l.perform net d w).2.2 = w ∧ (l.perform net d w).2.1.state = .closed ∧
      delivered? (d, (l.perform net d w).1) = none ∧ torn? (d, (l.perform net d w).1) = none := by
  have unusable : l.state ≠ .opened := by simp [state]
  cases d with
  | commit bytes =>
    rw [perform, commit_of_not_open net bytes l w unusable]
    exact ⟨rfl, state, rfl, rfl⟩
  | close =>
    rw [perform, close_of_not_open net l w unusable]
    exact ⟨rfl, state, rfl, rfl⟩
  | record time =>
    rw [perform, record_link]
    exact ⟨rfl, state, rfl, rfl⟩

/-- What a deed hands to the peer, by its answer. -/
inductive Hands (before after : List UInt8) (l : Link) (a : Deed × Outcome Unit) : Prop
  | whole {bytes : List UInt8} (delivered : delivered? a = some bytes) (intact : torn? a = none)
    (grown : after = before ++ bytes)
  | part {bytes part : List UInt8} (undelivered : delivered? a = none)
    (torn : torn? a = some bytes) (first : part <+: bytes) (grown : after = before ++ part)
    (closed : l.state = .closed)
  | nothing (undelivered : delivered? a = none) (intact : torn? a = none) (same : after = before)

/-- One deed hands over its payload, a part of it, or nothing, and its answer tells which. -/
theorem perform_hands (streams : net.Streams handed) (t : Transport) (d : Deed) (l : Link)
    (w : World σ) (h : Sound t l) :
    Hands (handed t.socket w.net) (handed t.socket (l.perform net d w).2.2.net)
      (l.perform net d w).2.1 (d, (l.perform net d w).1) := by
  cases d with
  | commit bytes =>
    have committed := h.commits net bytes w
    have sending := send_streams streams t bytes w
    rw [perform]
    generalize l.commit net bytes w = answer at committed ⊢
    cases committed with
    | rejected state => exact .nothing rfl rfl rfl
    | failed state unsent =>
      have released := streams.released t.socket (t.send net bytes w).2.net
      rw [unsent] at sending
      obtain ⟨part, first, grown⟩ := sending
      exact .part rfl rfl first (released.trans grown) rfl
    | panicked state sent long =>
      rw [sent] at sending
      exact .whole rfl rfl sending
    | done state sent sum =>
      rw [sent] at sending
      exact .whole rfl rfl sending
  | close =>
    cases h with
    | opened state transport =>
      have released := streams.released t.socket (t.shutdown net w).2.net
      rw [perform, close_of_open net l t w state transport]
      exact .nothing rfl rfl (released.trans (shutdown_stream streams t w))
    | closed state transport =>
      obtain ⟨same, -, undelivered, intact⟩ := perform_of_closed net .close l w state
      exact .nothing undelivered intact (by rw [same])
  | record time => exact .nothing rfl rfl rfl

/-- The rest of the life of a closed link: nothing is handed over, and nothing is torn. -/
theorem leaves_of_closed (stream : σ → List UInt8) (l : Link) (w : World σ)
    (life : List (World σ × Deed)) (state : l.state = .closed) (alone : l.Alone net stream w life) :
    stream (l.leaves net w life).net = stream w.net ∧
      (l.answers net life).filterMap delivered? = [] ∧ (l.answers net life).filterMap torn? = [] := by
  induction life generalizing l w with
  | nil => exact ⟨rfl, rfl, rfl⟩
  | cons o rest ih =>
    obtain ⟨found, d⟩ := o
    obtain ⟨same, later⟩ := alone
    obtain ⟨still, closed, undelivered, intact⟩ := perform_of_closed net d l found state
    obtain ⟨stream_rest, delivered_rest, torn_rest⟩ := ih _ _ closed later
    refine ⟨?_, ?_, ?_⟩
    · rw [leaves, stream_rest, still, same]
    · rw [answers, List.filterMap_cons_none undelivered, delivered_rest]
    · rw [answers, List.filterMap_cons_none intact, torn_rest]

/-- The payloads that were handed over whole, in order, and then at most a first part of the
one payload that was torn. -/
theorem leaves_stream (streams : net.Streams handed) (t : Transport) (l : Link) (w : World σ)
    (life : List (World σ × Deed)) (h : Sound t l)
    (alone : l.Alone net (handed t.socket) w life) :
    ((l.answers net life).filterMap torn?).length ≤ 1 ∧
      ∃ part, part <+: ((l.answers net life).filterMap torn?).flatten ∧
        handed t.socket (l.leaves net w life).net =
          handed t.socket w.net ++ ((l.answers net life).filterMap delivered?).flatten ++ part := by
  induction life generalizing l w with
  | nil => exact ⟨Nat.zero_le 1, [], List.nil_prefix, by simp [leaves, answers]⟩
  | cons o rest ih =>
    obtain ⟨found, d⟩ := o
    obtain ⟨same, later⟩ := alone
    have hands := perform_hands streams t d l found h
    rw [same] at hands
    rw [leaves, answers]
    cases hands with
    | @whole bytes delivered intact grown =>
      obtain ⟨single, part, first, stream⟩ := ih _ _ (perform_sound net t d l found h) later
      rw [List.filterMap_cons_some delivered, List.filterMap_cons_none intact, List.flatten_cons]
      refine ⟨single, part, first, ?_⟩
      rw [stream, grown, List.append_assoc, List.append_assoc, List.append_assoc,
        List.append_assoc]
    | @part bytes part undelivered torn first grown closed =>
      -- The link is closed, so the part is the last that its peer gets.
      obtain ⟨stream, delivered_rest, torn_rest⟩ :=
        leaves_of_closed (handed t.socket) _ _ rest closed later
      rw [List.filterMap_cons_none undelivered, List.filterMap_cons_some torn, delivered_rest,
        torn_rest]
      refine ⟨Nat.le_refl 1, part, by simpa using first, ?_⟩
      rw [stream, grown, List.flatten_nil, List.append_nil]
    | nothing undelivered intact unchanged =>
      obtain ⟨single, part, first, stream⟩ := ih _ _ (perform_sound net t d l found h) later
      rw [List.filterMap_cons_none undelivered, List.filterMap_cons_none intact]
      exact ⟨single, part, first, by rw [stream, unchanged]⟩

/-- Where no deed panicked, what was handed over whole is what was answered with ok. -/
theorem delivered_eq_accepted (as : List (Deed × Outcome Unit))
    (completed : ∀ a ∈ as, a.2.isPanicked = false) :
    as.filterMap delivered? = as.filterMap accepted? := by
  refine List.filterMap_congr fun a found => ?_
  have calm := completed a found
  obtain ⟨d, result⟩ := a
  cases result with
  | panicked p => cases calm
  | _ => cases d <;> rfl

theorem release_stream (streams : net.Streams handed) (t : Transport) (l : Link) (w : World σ)
    (h : Sound t l) : handed t.socket (l.release net w).net = handed t.socket w.net := by
  cases h with
  | opened state transport =>
    unfold release
    simp only [state, transport]
    exact streams.released t.socket w.net
  | closed state transport =>
    unfold release
    simp only [state, transport]
    rfl

/-- Over a byte stream, the peer of a link gets the payloads of the commits that returned ok,
whole and in order, and then at most a first part of a single payload more, of the commit that
the transport failed. Where a commit panicked over its time its payload stands among them.
After a failed commit or a close the link leaves the world alone, and dropping it hands over
nothing. -/
theorem peer_gets_payloads_in_order (streams : net.Streams handed) (l : Link)
    (made : Established net l) :
    ∃ t, l.transport = some t ∧
      (∀ w life, l.Alone net (handed t.socket) w life →
        ((l.answers net life).filterMap torn?).length ≤ 1 ∧
        ∃ part, part <+: ((l.answers net life).filterMap torn?).flatten ∧
          ((∀ a ∈ l.answers net life, a.2.isPanicked = false) →
            handed t.socket (l.leaves net w life).net =
              handed t.socket w.net ++ ((l.answers net life).filterMap accepted?).flatten ++ part) ∧
          handed t.socket (l.leaves net w life).net =
            handed t.socket w.net ++ ((l.answers net life).filterMap delivered?).flatten ++ part) ∧
      (∀ life, (∃ a ∈ l.answers net life, ends a = true) →
        ∀ d w, ((l.after net life).perform net d w).2.2 = w) ∧
      ∀ life w, handed t.socket ((l.after net life).release net w).net = handed t.socket w.net := by
  obtain ⟨kind, t, rfl⟩ := made.fresh
  have sound := fresh_sound kind t
  refine ⟨t, rfl, fun w life alone => ?_, fun life ended d w => ?_, fun life w => ?_⟩
  · obtain ⟨single, part, first, stream⟩ := leaves_stream streams t _ w life sound alone
    refine ⟨single, part, first, fun completed => ?_, stream⟩
    rw [stream, delivered_eq_accepted _ completed]
  · have closed := (after_closed_iff net t _ life sound).mpr (.inr ended)
    exact (perform_of_closed net d _ w closed).1
  · exact release_stream streams t _ w (after_sound net t _ life sound)

/-- Commits on a wire with room for five bytes: two that fit, one of them empty, one that
does not, and one that is rejected, with a record in between and a close at the end. -/
def overfilling : List (World Wire × Deed) :=
  Wire.link.inTurn Wire.fabric { net := { room := 5 } }
    [.commit [1, 2], .record {}, .commit [], .commit [3, 4, 5, 6], .commit [7], .close]

theorem peer_gets_of_overfilling :
    Wire.fabric.Streams (fun _ w => w.handed) ∧ Established Wire.fabric Wire.link ∧
      Wire.link.Alone Wire.fabric Wire.handed { net := { room := 5 } } overfilling ∧
      ∃ part, part <+: [3, 4, 5, 6] ∧
        (Wire.link.leaves Wire.fabric { net := { room := 5 } } overfilling).net.handed =
          [1, 2] ++ part := by
  obtain ⟨t, transport, lives, -, -⟩ :=
    peer_gets_payloads_in_order Wire.fabric_streams Wire.link Wire.link_established
  have alone : Wire.link.Alone Wire.fabric Wire.handed { net := { room := 5 } } overfilling :=
    inTurn_alone Wire.fabric Wire.handed _ Wire.link _
  obtain ⟨-, part, first, completed, -⟩ := lives _ overfilling alone
  exact ⟨Wire.fabric_streams, Wire.link_established, alone, part, first, completed (by decide)⟩

end Tether.Link
