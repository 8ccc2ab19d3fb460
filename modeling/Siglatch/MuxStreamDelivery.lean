import Siglatch.MuxStreamRuns
import Mathlib.Data.Multiset.Count
import Mathlib.Data.List.Count

set_option autoImplicit false

namespace Siglatch.MuxStreamDelivery
open MuxTypes MuxStream MuxStreamView MuxStreamOps MuxStreamRuns StepRuns

def Event.delivers (k : FragmentKey) : Event → Bool
  | .offered _ _ => false
  | .delivered p => decide (fragmentKey p = k)

def Event.accepts (k : FragmentKey) : Event → Bool
  | .offered p accepted => accepted && decide (fragmentKey p = k)
  | .delivered _ => false

def deliveries (k : FragmentKey) (events : List Event) : ℕ := events.countP (Event.delivers k)

def acceptances (k : FragmentKey) (events : List Event) : ℕ := events.countP (Event.accepts k)

/-- The key was accepted after its last delivery. -/
def Pending (k : FragmentKey) (events : List Event) : Prop :=
  ∃ before p after, events = before ++ .offered p true :: after ∧ fragmentKey p = k ∧
    deliveries k after = 0

def queuedKeys (state : StreamState) : Multiset FragmentKey := (queued state).map fragmentKey

/-- The history a stream state needs to remember: no key is queued twice, what is queued was
    accepted and not delivered since, and so was everything delivered before. -/
structure History (state : StreamState) (events : List Event) : Prop where
  nodup : (queuedKeys state).Nodup
  pending : ∀ k ∈ queuedKeys state, Pending k events
  delivered : ∀ n p, events[n]? = some (.delivered p) → Pending (fragmentKey p) (events.take n)
  counted : ∀ k, deliveries k events + (queuedKeys state).count k ≤ acceptances k events

theorem Pending.append {k : FragmentKey} {events : List Event} (h : Pending k events)
    (more : List Event) (hmore : deliveries k more = 0) : Pending k (events ++ more) := by
  obtain ⟨before, p, after, rfl, hp, hafter⟩ := h
  refine ⟨before, p, after ++ more, by simp, hp, ?_⟩
  unfold deliveries at hafter hmore ⊢
  rw [List.countP_append, hafter, hmore]

theorem pending_accepted (p : RecvPacket) (events : List Event) :
    Pending (fragmentKey p) (events ++ [.offered p true]) :=
  ⟨events, p, [], rfl, rfl, rfl⟩

theorem history_start (adapters : Option (List UInt32)) : History (start adapters) [] := by
  have hempty : queuedKeys (start adapters) = 0 := by
    unfold queuedKeys
    rw [queued_start]
    rfl
  refine ⟨?_, ?_, ?_, ?_⟩
  · rw [hempty]; exact Multiset.nodup_zero
  · rw [hempty]; intro k hk; exact absurd hk (Multiset.notMem_zero k)
  · intro n p h; simp at h
  · intro k; rw [hempty]; simp [deliveries, acceptances]

theorem delivered_append {events : List Event} {e : Event}
    (h : ∀ n p, events[n]? = some (.delivered p) → Pending (fragmentKey p) (events.take n))
    (he : ∀ p, e = .delivered p → Pending (fragmentKey p) events) (n : ℕ) (p : RecvPacket)
    (hn : (events ++ [e])[n]? = some (.delivered p)) :
    Pending (fragmentKey p) ((events ++ [e]).take n) := by
  by_cases hlt : n < events.length
  · rw [List.getElem?_append_left hlt] at hn
    rw [List.take_append_of_le_length hlt.le]
    exact h n p hn
  · rw [List.getElem?_append_right (by omega)] at hn
    obtain ⟨hz, rfl⟩ : n - events.length = 0 ∧ e = .delivered p := by
      cases hd : n - events.length with
      | zero => rw [hd] at hn; exact ⟨rfl, by simpa using hn⟩
      | succ d => rw [hd] at hn; simp at hn
    have hlen : n = events.length := by omega
    rw [hlen, List.take_left]
    exact he p rfl

theorem history_shrink {state state' : StreamState} {events : List Event}
    (h : History state events) (hle : queued state' ≤ queued state) : History state' events := by
  have hkeys : queuedKeys state' ≤ queuedKeys state := Multiset.map_le_map hle
  refine ⟨Multiset.nodup_of_le hkeys h.nodup, ?_, h.delivered, ?_⟩
  · intro k hk
    exact h.pending k (Multiset.mem_of_le hkeys hk)
  · intro k
    have hcount := Multiset.count_le_of_le k hkeys
    have := h.counted k
    omega

theorem history_refused {state : StreamState} {events : List Event} (h : History state events)
    (p : RecvPacket) : History state (events ++ [.offered p false]) := by
  refine ⟨h.nodup, ?_, ?_, ?_⟩
  · intro k hk
    exact (h.pending k hk).append _ rfl
  · exact delivered_append h.delivered fun q hq => by simp at hq
  · intro k
    have := h.counted k
    simpa [deliveries, acceptances, Event.delivers, Event.accepts] using this

theorem history_accepted {state state' : StreamState} {events : List Event} {p : RecvPacket}
    (h : History state events) (hnew : ∀ q ∈ queued state, fragmentKey q ≠ fragmentKey p)
    (hq : queued state' = stored p ::ₘ queued state) :
    History state' (events ++ [.offered p true]) := by
  have hkeys : queuedKeys state' = fragmentKey p ::ₘ queuedKeys state := by
    unfold queuedKeys
    rw [hq, Multiset.map_cons, fragmentKey_stored]
  have hfresh : fragmentKey p ∉ queuedKeys state := by
    intro hmem
    obtain ⟨q, hqm, hqk⟩ := Multiset.mem_map.mp hmem
    exact hnew q hqm hqk
  refine ⟨?_, ?_, ?_, ?_⟩
  · rw [hkeys]
    exact Multiset.nodup_cons.mpr ⟨hfresh, h.nodup⟩
  · intro k hk
    rw [hkeys] at hk
    obtain rfl | hk := Multiset.mem_cons.mp hk
    · exact pending_accepted p events
    · exact (h.pending k hk).append _ rfl
  · exact delivered_append h.delivered fun q hq => by simp at hq
  · intro k
    have hle := h.counted k
    unfold deliveries acceptances at hle ⊢
    rw [List.countP_append, List.countP_append, hkeys, Multiset.count_cons]
    by_cases hk : fragmentKey p = k
    · subst k
      simp [Event.delivers, Event.accepts]
      omega
    · simp [Event.delivers, Event.accepts, hk, Ne.symm hk]
      omega

theorem history_delivered {state state' : StreamState} {events : List Event} {p : RecvPacket}
    (h : History state events) (hq : queued state = p ::ₘ queued state') :
    History state' (events ++ [.delivered p]) := by
  have hkeys : queuedKeys state = fragmentKey p ::ₘ queuedKeys state' := by
    unfold queuedKeys
    rw [hq, Multiset.map_cons]
  have hnodup := h.nodup
  rw [hkeys, Multiset.nodup_cons] at hnodup
  have hpend : Pending (fragmentKey p) events := h.pending _ (by rw [hkeys]; simp)
  refine ⟨hnodup.2, ?_, ?_, ?_⟩
  · intro k hk
    have hne : fragmentKey p ≠ k := fun e => hnodup.1 (e ▸ hk)
    refine (h.pending k (by rw [hkeys]; exact Multiset.mem_cons_of_mem hk)).append _ ?_
    simp [deliveries, Event.delivers, hne]
  · refine delivered_append h.delivered ?_
    intro q hq
    obtain rfl : p = q := by simpa using hq
    exact hpend
  · intro k
    have hle := h.counted k
    unfold deliveries acceptances at hle ⊢
    rw [hkeys, Multiset.count_cons] at hle
    rw [List.countP_append, List.countP_append]
    by_cases hk : fragmentKey p = k
    · subst k
      simp at hle
      simp [Event.delivers, Event.accepts]
      omega
    · simp [Ne.symm hk] at hle
      simp [Event.delivers, Event.accepts, hk]
      omega

theorem history_step (state : StreamState) (events : List Event) (op : Op)
    (h : History state events) : History (step state op).1 (events ++ (step state op).2) := by
  have hqueue := step_queue state op
  generalize (step state op).2 = emitted at hqueue ⊢
  cases hqueue with
  | quiet hq =>
    rw [List.append_nil]
    exact history_shrink h hq.le
  | refused p hq => exact history_shrink (history_refused h p) hq.le
  | accepted p hnew hq => exact history_accepted h hnew hq
  | delivered p hq => exact history_delivered h hq
  | expired hle =>
    rw [List.append_nil]
    exact history_shrink h hle

theorem history_run (adapters : Option (List UInt32)) (ops : List Op) :
    History (run step (start adapters) ops).1 (run step (start adapters) ops).2 :=
  run_history (fun _ => True) (fun s events op _ => history_step s events op)
    (start adapters) (history_start adapters) ops fun _ _ => trivial

theorem pending_after_delivery {k : FragmentKey} {before between : List Event} {p : RecvPacket}
    (h : Pending k (before ++ .delivered p :: between)) (hp : fragmentKey p = k) :
    0 < acceptances k between := by
  obtain ⟨front, r, back, hsplit, hr, hback⟩ := h
  have hin : ∀ mid, between = mid ++ .offered r true :: back → 0 < acceptances k between := by
    intro mid hmid
    refine List.countP_pos_iff.mpr ⟨.offered r true, by simp [hmid], ?_⟩
    simp [Event.accepts, hr]
  have hout : ¬ ∃ pre, back = pre ++ .delivered p :: between := by
    rintro ⟨pre, rfl⟩
    have hpos : 0 < deliveries k (pre ++ .delivered p :: between) :=
      List.countP_pos_iff.mpr ⟨.delivered p, by simp, by simp [Event.delivers, hp]⟩
    omega
  obtain ⟨mid, rfl, hmid⟩ | ⟨mid, rfl, hmid⟩ := List.append_eq_append_iff.mp hsplit
  · cases mid with
    | nil => simp at hmid
    | cons e mid => exact hin mid (List.cons.inj hmid).2
  · cases mid with
    | nil => simp at hmid
    | cons e mid => exact absurd ⟨mid, (List.cons.inj hmid).2⟩ hout

/-- Duplicates are refused while their key is queued, and only then: a key is delivered at
    most once for each time it is accepted. -/
theorem delivered_once_per_acceptance (adapters : Option (List UInt32)) (ops : List Op) :
    (∀ k, deliveries k (run step (start adapters) ops).2 ≤
      acceptances k (run step (start adapters) ops).2) ∧
    ∀ before p between q after, (run step (start adapters) ops).2 =
        before ++ .delivered p :: (between ++ .delivered q :: after) →
      fragmentKey q = fragmentKey p → 0 < acceptances (fragmentKey p) between := by
  have h := history_run adapters ops
  constructor
  · intro k
    have := h.counted k
    omega
  · intro before p between q after hsplit hkey
    have hn := h.delivered (before ++ .delivered p :: between).length q
    rw [hsplit, ← List.cons_append, ← List.append_assoc, List.take_left] at hn
    exact pending_after_delivery (hkey ▸ hn (by simp)) rfl

def onePacket : RecvPacket :=
  { RecvPacket.zero with sessionId := 1, streamId := 1, messageId := 1, fragmentCount := 1 }

def replayed : List Op := [.ingest onePacket, .drain true, .ingest onePacket, .drain true]

theorem replayed_twice : deliveries (1, 1, 1, 0) (run step (start none) replayed).2 = 2 := by
  decide +kernel

theorem delivered_again_after_replay :
    ¬ ∀ (adapters : Option (List UInt32)) (ops : List Op) (k : FragmentKey),
      k.2.1 ≠ 0 → k.2.2.1 ≠ 0 → deliveries k (run step (start adapters) ops).2 ≤ 1 := by
  intro h
  have hone := h none replayed (1, 1, 1, 0) (by decide) (by decide)
  rw [replayed_twice] at hone
  contradiction

end Siglatch.MuxStreamDelivery
