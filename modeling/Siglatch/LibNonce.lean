import Siglatch.LibStr
import Siglatch.OverwriteRing
import Siglatch.RelatedLists
import Mathlib.Data.Nat.Find

set_option autoImplicit false

namespace Siglatch.LibNonce
open MuxTypes OverwriteRing RelatedLists
open LibStr (decimalText decimalText_length)

def NONCE_DEFAULT_CAPACITY : ℕ := 128
def NONCE_DEFAULT_STRLEN : ℕ := 32
def NONCE_DEFAULT_TTL_SECONDS : ℤ := 60

structure NonceEntry where
  nonce : CString
  timestamp : ℤ
  deriving DecidableEq

structure NonceConfig where
  capacity : ℕ
  nonceStrlen : ℕ
  ttlSeconds : ℤ

/-- The entries with the index of the one to be written next, and the size of each one's text. -/
structure NonceCache where
  entries : RingBuffer NonceEntry
  nonceStrlen : ℕ
  ttlSeconds : ℤ

def NonceCache.capacity (cache : NonceCache) : ℕ := cache.entries.slots.length

def configuredCapacity (cfg : Option NonceConfig) : ℕ :=
  match cfg with
  | some cfg => if 0 < cfg.capacity then cfg.capacity else NONCE_DEFAULT_CAPACITY
  | none => NONCE_DEFAULT_CAPACITY

theorem configuredCapacity_pos (cfg : Option NonceConfig) : 0 < configuredCapacity cfg := by
  unfold configuredCapacity
  split
  · split
    · assumption
    · decide
  · decide

def cacheInit (cfg : Option NonceConfig) : NonceCache where
  entries := {
    slots := List.replicate (configuredCapacity cfg) ⟨[], 0⟩
    next := 0
    next_lt := by
      rw [List.length_replicate]
      exact configuredCapacity_pos cfg }
  nonceStrlen := match cfg with
    | some cfg => if 1 < cfg.nonceStrlen then cfg.nonceStrlen else NONCE_DEFAULT_STRLEN
    | none => NONCE_DEFAULT_STRLEN
  ttlSeconds := match cfg with
    | some cfg => if 0 ≤ cfg.ttlSeconds then cfg.ttlSeconds else NONCE_DEFAULT_TTL_SECONDS
    | none => NONCE_DEFAULT_TTL_SECONDS

/-- The loop of `check`: expired entries are cleared on the way, up to the first match. -/
def checkEntries (ttlSeconds : ℤ) (nonceStrlen : ℕ) (nonce : CString) (now : ℤ) :
    List NonceEntry → Bool × List NonceEntry
  | [] => (false, [])
  | entry :: rest =>
    let further := checkEntries ttlSeconds nonceStrlen nonce now rest
    if entry.nonce = [] then (further.1, entry :: further.2)
    else if ttlSeconds < now - entry.timestamp then (further.1, ⟨[], 0⟩ :: further.2)
    else if entry.nonce.take nonceStrlen = nonce.take nonceStrlen then (true, entry :: rest)
    else (further.1, entry :: further.2)

theorem checkEntries_length (ttlSeconds : ℤ) (nonceStrlen : ℕ) (nonce : CString) (now : ℤ)
    (entries : List NonceEntry) :
    (checkEntries ttlSeconds nonceStrlen nonce now entries).2.length = entries.length := by
  induction entries with
  | nil => rfl
  | cons entry rest ih =>
    unfold checkEntries
    dsimp only
    split
    · exact congrArg Nat.succ ih
    split
    · exact congrArg Nat.succ ih
    split
    · rfl
    · exact congrArg Nat.succ ih

def check (cache : NonceCache) (nonce : CString) (now : ℤ) : Bool × NonceCache :=
  let checked := checkEntries cache.ttlSeconds cache.nonceStrlen nonce now cache.entries.slots
  (checked.1, { cache with entries := {
    slots := checked.2
    next := cache.entries.next
    next_lt := Nat.lt_of_lt_of_eq cache.entries.next_lt (checkEntries_length ..).symm } })

/-- `strncpy` into the slot, with the terminator behind it. -/
def add (cache : NonceCache) (nonce : CString) (now : ℤ) : NonceCache :=
  { cache with entries := cache.entries.push ⟨nonce.take (cache.nonceStrlen - 1), now⟩ }

/-- What the codecs do with the nonce of a packet. -/
def nonceAccept (cache : NonceCache) (nonce : CString) (now : ℤ) : Bool × NonceCache :=
  let checked := check cache nonce now
  if checked.1 then (false, checked.2) else (true, add checked.2 nonce now)

def packetNonce (timestamp challenge : UInt32) : CString :=
  decimalText timestamp.toNat ++ (ascii ['-'] ++ decimalText challenge.toNat)

structure Fits (nonceStrlen : ℕ) (nonce : CString) : Prop where
  nonempty : nonce ≠ []
  short : nonce.length < nonceStrlen

theorem packetNonce_fits (timestamp challenge : UInt32) :
    Fits NONCE_DEFAULT_STRLEN (packetNonce timestamp challenge) := by
  have digits (n : UInt32) : (decimalText n.toNat).length ≤ 10 := by
    have small := n.toNat_lt
    exact decimalText_length (by decide) (by omega)
  have first := digits timestamp
  have second := digits challenge
  constructor
  · unfold packetNonce
    simp [ascii]
  · unfold packetNonce
    rw [List.length_append, List.length_append, show (ascii ['-']).length = 1 from rfl,
      show NONCE_DEFAULT_STRLEN = 32 from rfl]
    omega

section Check

variable {ttl : ℤ} {strlen : ℕ} {nonce : CString} {now : ℤ}

def Swept (ttl now : ℤ) (entry after : NonceEntry) : Prop :=
  after = entry ∨ (ttl < now - entry.timestamp ∧ after.nonce = [])

theorem checkEntries_swept (entries : List NonceEntry) :
    List.Forall₂ (Swept ttl now) entries (checkEntries ttl strlen nonce now entries).2 := by
  induction entries with
  | nil => exact .nil
  | cons entry rest ih =>
    unfold checkEntries
    dsimp only
    split
    · exact .cons (.inl rfl) ih
    split
    · rename_i expired
      exact .cons (.inr ⟨expired, rfl⟩) ih
    split
    · exact .cons (.inl rfl) (List.forall₂_same.mpr fun _ _ => .inl rfl)
    · exact .cons (.inl rfl) ih

structure Matches (ttl : ℤ) (strlen : ℕ) (nonce : CString) (now : ℤ) (entry : NonceEntry) :
    Prop where
  used : entry.nonce ≠ []
  valid : now - entry.timestamp ≤ ttl
  same : entry.nonce.take strlen = nonce.take strlen

theorem checkEntries_found (entries : List NonceEntry) :
    (checkEntries ttl strlen nonce now entries).1 = true ↔
      ∃ entry ∈ entries, Matches ttl strlen nonce now entry := by
  induction entries with
  | nil => simp [checkEntries]
  | cons entry rest ih =>
    rw [List.exists_mem_cons_iff, ← ih, checkEntries]
    split
    · rename_i blank
      exact (or_iff_right fun hit : Matches ttl strlen nonce now entry => hit.used blank).symm
    split
    · rename_i expired
      exact (or_iff_right fun hit : Matches ttl strlen nonce now entry =>
        absurd hit.valid (Int.not_le.mpr expired)).symm
    split
    · rename_i used valid same
      exact iff_of_true rfl (.inl ⟨used, Int.not_lt.mp valid, same⟩)
    · rename_i other
      exact (or_iff_right fun hit : Matches ttl strlen nonce now entry => other hit.same).symm

end Check

abbrev Log := List (CString × ℤ)

/-- The nonce was last accepted no longer ago than the time to live, and fewer nonces than there
are slots have been accepted since. -/
def Remembered (capacity : ℕ) (ttl : ℤ) (log : Log) (nonce : CString) (now : ℤ) : Prop :=
  ∃ i s, i < capacity ∧ log[i]? = some (nonce, s) ∧
    (∀ j, j < i → ∀ t, log[j]? ≠ some (nonce, t)) ∧ now - s ≤ ttl

section Window

variable {ttl : ℤ} {strlen : ℕ} {last now : ℤ} {log : Log}

/-- A slot holds its entry of the log, or is empty where there is none or that one has expired. -/
def Held (ttl last : ℤ) (entry : NonceEntry) : Option (CString × ℤ) → Prop
  | none => entry.nonce = []
  | some (nonce, s) => entry = ⟨nonce, s⟩ ∨ (entry.nonce = [] ∧ ttl < last - s)

theorem held_swept {entry after : NonceEntry} {record : Option (CString × ℤ)}
    (held : Held ttl last entry record) (swept : Swept ttl now entry after) (later : last ≤ now) :
    Held ttl now after record := by
  cases record with
  | none =>
    rcases swept with rfl | ⟨-, empty⟩
    · exact held
    · exact empty
  | some record =>
    obtain ⟨nonce, s⟩ := record
    rcases swept with rfl | ⟨expired, empty⟩
    · rcases held with same | ⟨empty, expired⟩
      · exact .inl same
      · exact .inr ⟨empty, by omega⟩
    · rcases held with rfl | ⟨-, expired⟩
      · exact .inr ⟨empty, expired⟩
      · exact .inr ⟨empty, by omega⟩

/-- What ties the cache to its log, as of the last time the cache was used. -/
structure Tracks (cache : NonceCache) (log : Log) (last : ℤ) : Prop where
  slots : List.Forall₂ (Held cache.ttlSeconds last) cache.entries.recent (window cache.capacity log)
  fits : ∀ record ∈ log, Fits cache.nonceStrlen record.1
  ordered : log.Pairwise fun newer older => older.2 ≤ newer.2
  past : ∀ record ∈ log, record.2 ≤ last

theorem remembered_iff {capacity : ℕ} {nonce : CString}
    (ordered : log.Pairwise fun newer older => older.2 ≤ newer.2) :
    Remembered capacity ttl log nonce now ↔
      ∃ s, some (nonce, s) ∈ window capacity log ∧ now - s ≤ ttl := by
  constructor
  · rintro ⟨i, s, inside, found, -, valid⟩
    exact ⟨s, some_mem_window.mpr ⟨i, inside, found⟩, valid⟩
  · rintro ⟨s, member, valid⟩
    obtain ⟨i, inside, found⟩ := some_mem_window.mp member
    have some_entry : ∃ j t, log[j]? = some (nonce, t) := ⟨i, s, found⟩
    classical
    let first := Nat.find some_entry
    obtain ⟨t, latest⟩ := Nat.find_spec some_entry
    have before : first ≤ i := Nat.find_min' some_entry ⟨s, found⟩
    have newer : s ≤ t := by
      rcases Nat.eq_or_lt_of_le before with same | earlier
      · change log[first]? = some (nonce, t) at latest
        rw [same, found] at latest
        exact Int.le_of_eq (Prod.mk.inj (Option.some.inj latest)).2
      · obtain ⟨hi, at_i⟩ := List.getElem?_eq_some_iff.mp found
        obtain ⟨hf, at_first⟩ := List.getElem?_eq_some_iff.mp latest
        have order := List.pairwise_iff_getElem.mp ordered first i hf hi earlier
        change log[first] = (nonce, t) at at_first
        rw [at_i, at_first] at order
        exact order
    refine ⟨first, t, lt_of_le_of_lt before inside, latest, ?_, by omega⟩
    intro j earlier u entry
    exact Nat.find_min some_entry earlier ⟨u, entry⟩

variable {cache : NonceCache} {nonce : CString}

theorem record_fits (tracks : Tracks cache log last) {record : CString × ℤ}
    (member : some record ∈ window cache.capacity log) : Fits cache.nonceStrlen record.1 := by
  obtain ⟨i, -, found⟩ := some_mem_window.mp member
  exact tracks.fits record (List.mem_of_getElem? found)

theorem check_found (tracks : Tracks cache log last) (fits : Fits cache.nonceStrlen nonce)
    (later : last ≤ now) : (check cache nonce now).1 = true ↔
      Remembered cache.capacity cache.ttlSeconds log nonce now := by
  rw [remembered_iff tracks.ordered]
  change (checkEntries cache.ttlSeconds cache.nonceStrlen nonce now
    cache.entries.slots).1 = true ↔ _
  rw [checkEntries_found]
  constructor
  · rintro ⟨entry, member, hit⟩
    obtain ⟨record, inside, held⟩ := related_left tracks.slots ((mem_recent _).mpr member)
    cases record with
    | none => exact absurd held hit.used
    | some record =>
      obtain ⟨text, s⟩ := record
      rcases held with rfl | ⟨empty, -⟩
      · have whole := (record_fits tracks inside).short
        have same := hit.same
        dsimp only at whole same
        rw [List.take_of_length_le (Nat.le_of_lt whole),
          List.take_of_length_le (Nat.le_of_lt fits.short)] at same
        subst same
        exact ⟨s, inside, hit.valid⟩
      · exact absurd empty hit.used
  · rintro ⟨s, inside, valid⟩
    obtain ⟨entry, member, held⟩ := related_right tracks.slots inside
    rcases held with rfl | ⟨-, expired⟩
    · exact ⟨_, (mem_recent _).mp member, fits.nonempty, valid, rfl⟩
    · omega

theorem check_tracks (tracks : Tracks cache log last) (later : last ≤ now) :
    Tracks (check cache nonce now).2 log now := by
  have swept := @checkEntries_swept cache.ttlSeconds cache.nonceStrlen nonce now cache.entries.slots
  have recent := recent_forall₂ cache.entries
    (show cache.entries.next = (check cache nonce now).2.entries.next from rfl) swept
  have size : (check cache nonce now).2.capacity = cache.capacity := checkEntries_length ..
  refine ⟨?_, tracks.fits, tracks.ordered, fun record member =>
    Int.le_trans (tracks.past record member) later⟩
  rw [size]
  exact forall₂_through tracks.slots recent fun _ _ _ held kept => held_swept held kept later

theorem add_tracks (tracks : Tracks cache log now) (fits : Fits cache.nonceStrlen nonce) :
    Tracks (add cache nonce now) ((nonce, now) :: log) now := by
  have size : (add cache nonce now).capacity = cache.capacity := List.length_set
  have pos : 0 < cache.capacity := Nat.zero_lt_of_lt cache.entries.next_lt
  have short := fits.short
  have stored : nonce.take (cache.nonceStrlen - 1) = nonce := List.take_of_length_le (by omega)
  constructor
  · rw [size, window_cons pos]
    change List.Forall₂ _ (cache.entries.push _).recent _
    rw [recent_push, stored]
    refine .cons (.inl rfl) ?_
    rw [List.dropLast_eq_take, List.dropLast_eq_take, tracks.slots.length_eq]
    exact List.forall₂_take _ tracks.slots
  · intro record member
    rcases List.mem_cons.mp member with rfl | member
    · exact fits
    · exact tracks.fits record member
  · exact List.pairwise_cons.mpr ⟨tracks.past, tracks.ordered⟩
  · intro record member
    rcases List.mem_cons.mp member with rfl | member
    · exact Int.le_refl _
    · exact tracks.past record member

theorem nonceAccept_tracks (tracks : Tracks cache log last) (fits : Fits cache.nonceStrlen nonce)
    (later : last ≤ now) : Tracks (nonceAccept cache nonce now).2
      (if (nonceAccept cache nonce now).1 then (nonce, now) :: log else log) now := by
  have checked : Tracks (check cache nonce now).2 log now := check_tracks tracks later
  unfold nonceAccept
  dsimp only
  split
  · exact checked
  · exact add_tracks checked fits

end Window

section Runs

def serve (state : NonceCache × Log) (event : CString × ℤ) : NonceCache × Log :=
  let accepted := nonceAccept state.1 event.1 event.2
  (accepted.2, if accepted.1 then event :: state.2 else state.2)

def afterEvents (cfg : Option NonceConfig) (events : List (CString × ℤ)) : NonceCache × Log :=
  events.foldl serve (cacheInit cfg, [])

structure SameSettings (cache other : NonceCache) : Prop where
  capacity : other.capacity = cache.capacity
  strlen : other.nonceStrlen = cache.nonceStrlen
  ttl : other.ttlSeconds = cache.ttlSeconds

theorem nonceAccept_settings (cache : NonceCache) (nonce : CString) (now : ℤ) :
    SameSettings cache (nonceAccept cache nonce now).2 := by
  have checked : (check cache nonce now).2.capacity = cache.capacity := checkEntries_length ..
  unfold nonceAccept
  dsimp only
  split
  · exact ⟨checked, rfl, rfl⟩
  · exact ⟨(List.length_set).trans checked, rfl, rfl⟩

theorem foldl_tracks (events : List (CString × ℤ)) {state : NonceCache × Log} {last now : ℤ}
    (tracks : Tracks state.1 state.2 last)
    (fits : ∀ event ∈ events, Fits state.1.nonceStrlen event.1)
    (ordered : events.Pairwise fun earlier later => earlier.2 ≤ later.2)
    (running : ∀ event ∈ events, last ≤ event.2 ∧ event.2 ≤ now) (later : last ≤ now) :
    ∃ latest, latest ≤ now ∧
      Tracks (events.foldl serve state).1 (events.foldl serve state).2 latest ∧
      SameSettings state.1 (events.foldl serve state).1 := by
  induction events generalizing state last with
  | nil => exact ⟨last, later, tracks, rfl, rfl, rfl⟩
  | cons event events ih =>
    obtain ⟨after, rest⟩ := List.pairwise_cons.mp ordered
    obtain ⟨due, before⟩ := running event List.mem_cons_self
    have settings := nonceAccept_settings state.1 event.1 event.2
    have served : Tracks (serve state event).1 (serve state event).2 event.2 :=
      nonceAccept_tracks tracks (fits event List.mem_cons_self) due
    obtain ⟨latest, early, tracked, kept⟩ := ih served
      (fun other member => settings.strlen.symm ▸ fits other (List.mem_cons_of_mem _ member)) rest
      (fun other member => ⟨after other member, (running other (List.mem_cons_of_mem _ member)).2⟩)
      before
    exact ⟨latest, early, tracked, kept.capacity.trans settings.capacity,
      kept.strlen.trans settings.strlen, kept.ttl.trans settings.ttl⟩

theorem init_tracks (cfg : Option NonceConfig) (last : ℤ) : Tracks (cacheInit cfg) [] last := by
  refine ⟨?_, fun _ member => absurd member List.not_mem_nil, .nil,
    fun _ member => absurd member List.not_mem_nil⟩
  have capacity : (cacheInit cfg).capacity = configuredCapacity cfg := List.length_replicate
  rw [capacity, window_nil]
  change List.Forall₂ _ (List.drop 0 (List.replicate _ _) ++ List.take 0 _).reverse _
  rw [List.drop_zero, List.take_zero, List.append_nil, List.reverse_replicate]
  generalize configuredCapacity cfg = n
  induction n with
  | zero => exact .nil
  | succ n ih => exact .cons rfl ih

/-- After any run of the cache a nonce is rejected exactly if it is remembered. -/
theorem nonce_rejected_iff (cfg : Option NonceConfig) (events : List (CString × ℤ))
    (nonce : CString) (now : ℤ)
    (fits : ∀ event ∈ events ++ [(nonce, now)], Fits (cacheInit cfg).nonceStrlen event.1)
    (ordered : (events ++ [(nonce, now)]).Pairwise fun earlier later => earlier.2 ≤ later.2) :
    (nonceAccept (afterEvents cfg events).1 nonce now).1 = false ↔
      Remembered (cacheInit cfg).capacity (cacheInit cfg).ttlSeconds (afterEvents cfg events).2
        nonce now := by
  obtain ⟨runs, -, before⟩ := List.pairwise_append.mp ordered
  have due : ∀ event ∈ events, event.2 ≤ now := fun event member =>
    before event member (nonce, now) (List.mem_singleton.mpr rfl)
  obtain ⟨start, early, begins⟩ : ∃ start, start ≤ now ∧ ∀ event ∈ events, start ≤ event.2 := by
    cases events with
    | nil => exact ⟨now, Int.le_refl _, fun _ member => absurd member List.not_mem_nil⟩
    | cons first events =>
      refine ⟨first.2, due first List.mem_cons_self, ?_⟩
      intro event member
      rcases List.mem_cons.mp member with rfl | member
      · exact Int.le_refl _
      · exact (List.pairwise_cons.mp runs).1 event member
  obtain ⟨latest, later, tracks, settings⟩ := @foldl_tracks events (cacheInit cfg, []) start now
    (init_tracks cfg start) (fun event member => fits event (List.mem_append_left _ member)) runs
    (fun event member => ⟨begins event member, due event member⟩) early
  have own : Fits (afterEvents cfg events).1.nonceStrlen nonce :=
    settings.strlen.symm ▸ fits (nonce, now) (List.mem_append_right _ (List.mem_singleton.mpr rfl))
  have found := check_found tracks own later
  rw [settings.capacity, settings.ttl] at found
  have rejected : (nonceAccept (afterEvents cfg events).1 nonce now).1 = false ↔
      (check (afterEvents cfg events).1 nonce now).1 = true := by
    unfold nonceAccept
    dsimp only
    split
    · rename_i hit
      exact iff_of_true rfl hit
    · rename_i miss
      exact iff_of_false Bool.noConfusion miss
  exact rejected.trans found

/-- A packet that comes again after thirty seconds. -/
theorem repeated_rejected : (nonceAccept (afterEvents none [(packetNonce 1000 7, 100)]).1
    (packetNonce 1000 7) 130).1 = false := by
  have accepted : (afterEvents none [(packetNonce 1000 7, 100)]).2 =
      [(packetNonce 1000 7, 100)] := by
    decide +kernel
  apply (nonce_rejected_iff none [(packetNonce 1000 7, 100)] (packetNonce 1000 7) 130 ?_ ?_).mpr
  · rw [accepted]
    have room : 0 < (cacheInit none).capacity :=
      Nat.zero_lt_of_lt (cacheInit none).entries.next_lt
    exact ⟨0, 100, room, rfl, fun j before => absurd before (Nat.not_lt_zero j), by decide⟩
  · intro event member
    rcases List.mem_cons.mp member with rfl | member
    · exact packetNonce_fits 1000 7
    · obtain rfl := List.mem_singleton.mp member
      exact packetNonce_fits 1000 7
  · exact List.pairwise_pair.mpr (by decide)

end Runs

end Siglatch.LibNonce
