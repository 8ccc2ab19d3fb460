import Siglatch.AppConfigSections
import Siglatch.RequestPolicy
import Siglatch.NetIpSpec
import Mathlib.Data.List.DropRight

set_option autoImplicit false

namespace Siglatch.AppAllowlists
open MuxTypes AppConfig DaemonPayload NetIpRange LibStr AppBuiltin AppConfigLoad AppConfigSections
open RequestPolicy NetIpSpec

/-! What an allowlist of the configuration file says, and when the checks keep to it. -/

def allowedIpsKey : CString := ascii "allowed_ips".toList

/-- The specs that a section writes under `allowed_ips`, in all its entries. -/
def listed (found : IniSection) : List CString :=
  (found.entries.filter (·.key = allowedIpsKey)).flatMap fun entry =>
    ((entry.value.splitOn 44).map trim).filter (· ≠ [])

def Limited (found : IniSection) : Prop := ∃ entry ∈ found.entries, entry.key = allowedIpsKey

/-- The addresses that a section means to admit. -/
def meantSet (found : IniSection) : Set UInt32 :=
  {addr | Limited found → ∃ spec ∈ listed found, ∃ set, Denotes spec set ∧ addr ∈ set}

/-- A record's list keeps the section's specs, none of them dropped or changed, each of them
denotes a set, and the check admits exactly these sets, or every address where the section has
no list. -/
structure Means (found : IniSection) (allowedIps : List CString) (admits : CString → Bool) :
    Prop where
  wellFormed : ∀ spec ∈ listed found, ∃ set, Denotes spec set
  admitted : ∀ ip addr, Quad ip addr → (admits ip = true ↔ addr ∈ meantSet found)
  unaltered : allowedIps.filter (· ≠ []) = listed found
  unrestricted : allowedIps = [] → ¬ Limited found

/-- The texts on which the loader keeps to the list: one with an item if there is a list at all,
nothing but blanks behind the sixteenth item, and no spec that its slot cuts or that `strtoul`
reads too generously. -/
structure Sound (found : IniSection) : Prop where
  someItem : Limited found → items allowedIpsKey found ≠ []
  noneBehind : ∀ spec ∈ (items allowedIpsKey found).drop MAX_IP_RANGES, spec = []
  fits : ∀ spec ∈ listed found, spec.length < MAX_IP_RANGE_LEN
  strict : ∀ spec ∈ listed found, ¬ Loose spec

section Lists

variable {found : IniSection}

theorem trim_trim (text : CString) : trim (trim text) = trim text := by
  have front : (trim text).dropWhile isSpace = trim text := by
    cases kept : trim text with
    | nil => rfl
    | cons c rest =>
      have inside : c :: rest <+: text.dropWhile isSpace := kept ▸ List.rdropWhile_prefix isSpace _
      obtain ⟨behind, whole⟩ := inside
      have bare := List.head?_dropWhile_not isSpace text
      rw [← whole] at bare
      exact List.dropWhile_cons_of_neg (Bool.eq_false_iff.mp bare)
  calc trim (trim text) = ((trim text).dropWhile isSpace).rdropWhile isSpace := rfl
    _ = ((text.dropWhile isSpace).rdropWhile isSpace).rdropWhile isSpace := by rw [front]; rfl
    _ = trim text := List.rdropWhile_idempotent isSpace _

theorem listed_eq : listed found = (items allowedIpsKey found).filter (· ≠ []) := by
  unfold listed items tokens
  rw [List.filter_flatMap]
  congr 1
  funext entry
  rw [List.filter_map, List.filter_map, List.filter_filter]
  congr 1
  apply List.filter_congr
  intro piece _
  rw [Function.comp_apply, eq_comm, Bool.and_eq_left_iff_imp, decide_eq_true_iff,
    decide_eq_true_iff]
  rintro nonblank rfl
  exact nonblank rfl

theorem listed_trim {spec : CString} (member : spec ∈ listed found) : trim spec = spec := by
  obtain ⟨entry, -, inside⟩ := List.mem_flatMap.mp member
  obtain ⟨piece, -, rfl⟩ := List.mem_map.mp (List.mem_filter.mp inside).1
  exact trim_trim piece

theorem items_nil_of_unlimited (unlimited : ¬ Limited found) : items allowedIpsKey found = [] := by
  have none : found.entries.filter (·.key = allowedIpsKey) = [] := by
    apply List.filter_eq_nil_iff.mpr
    intro entry member own
    exact unlimited ⟨entry, member, of_decide_eq_true own⟩
  unfold items
  rw [none, List.flatMap_nil]

theorem lcpy_nil_iff {spec : CString} : lcpy spec MAX_IP_RANGE_LEN = [] ↔ spec = [] := by
  unfold lcpy
  rw [List.take_eq_nil_iff]
  simp [MAX_IP_RANGE_LEN]

theorem lcpy_eq_iff {spec : CString} :
    lcpy spec MAX_IP_RANGE_LEN = spec ↔ spec.length < MAX_IP_RANGE_LEN := by
  unfold lcpy MAX_IP_RANGE_LEN
  constructor
  · intro same
    have length := congrArg List.length same
    rw [List.length_take] at length
    omega
  · intro short
    exact List.take_of_length_le (by omega)

theorem kept_specs : (keptRanges found).filter (· ≠ []) =
    (((items allowedIpsKey found).take MAX_IP_RANGES).filter (· ≠ [])).map
      (lcpy · MAX_IP_RANGE_LEN) := by
  change (((items allowedIpsKey found).take MAX_IP_RANGES).map _).filter _ = _
  rw [List.filter_map]
  congr 1
  apply List.filter_congr
  intro spec _
  rw [Function.comp_apply, decide_eq_decide, not_iff_not]
  exact lcpy_nil_iff

theorem unaltered_iff : (keptRanges found).filter (· ≠ []) = listed found ↔
    (∀ spec ∈ (items allowedIpsKey found).drop MAX_IP_RANGES, spec = []) ∧
      ∀ spec ∈ listed found, spec.length < MAX_IP_RANGE_LEN := by
  have parts : listed found =
      ((items allowedIpsKey found).take MAX_IP_RANGES).filter (· ≠ []) ++
        ((items allowedIpsKey found).drop MAX_IP_RANGES).filter (· ≠ []) := by
    rw [listed_eq, ← List.filter_append, List.take_append_drop]
  rw [kept_specs]
  constructor
  · intro same
    have none : ((items allowedIpsKey found).drop MAX_IP_RANGES).filter (· ≠ []) = [] := by
      have lengths := congrArg List.length same
      rw [parts, List.length_append, List.length_map] at lengths
      exact List.eq_nil_of_length_eq_zero (by omega)
    refine ⟨?_, ?_⟩
    · intro spec member
      by_contra nonblank
      exact List.filter_eq_nil_iff.mp none spec member (decide_eq_true nonblank)
    · rw [none, List.append_nil] at parts
      rw [← parts] at same
      intro spec member
      exact lcpy_eq_iff.mp (List.map_inj_left.mp (same.trans (List.map_id _).symm) spec member)
  · rintro ⟨behind, short⟩
    have none : ((items allowedIpsKey found).drop MAX_IP_RANGES).filter (· ≠ []) = [] := by
      apply List.filter_eq_nil_iff.mpr
      intro spec member nonblank
      exact of_decide_eq_true nonblank (behind spec member)
    rw [none, List.append_nil] at parts
    rw [← parts]
    refine (List.map_congr_left ?_).trans (List.map_id _)
    intro spec member
    exact lcpy_eq_iff.mpr (short spec member)

end Lists

section Checks

variable {found : IniSection}

theorem contains_denotes {spec ip : CString} {addr : UInt32} (plain : trim spec = spec)
    (short : spec.length < MAX_IP_RANGE_LEN) (strict : ¬ Loose spec) (quad : Quad ip addr) :
    containsSpecIpv4 spec ip = true ↔ ∃ set, Denotes spec set ∧ addr ∈ set := by
  have small : spec.length < 64 := short
  have meant := meant_of_strict (by rw [plain]; omega) (by rw [plain]; exact strict)
  have scan := meant.1 ip addr quad
  rw [plain] at scan
  exact scan

theorem accepted_denotes {spec : CString} (plain : trim spec = spec)
    (short : spec.length < MAX_IP_RANGE_LEN) (strict : ¬ Loose spec)
    (accepted : isSingleIpv4 spec = true ∨ isCidrIpv4 spec = true) : ∃ set, Denotes spec set := by
  have small : spec.length < 64 := short
  have meant := meant_of_strict (by rw [plain]; omega) (by rw [plain]; exact strict)
  have form := meant.2.mp accepted
  rw [plain] at form
  exact form

theorem blank_contains (ip : CString) : containsSpecIpv4 [] ip = false := by
  rfl

theorem mem_kept_iff {spec : CString}
    (unaltered : (keptRanges found).filter (· ≠ []) = listed found) :
    spec ∈ listed found ↔ spec ∈ keptRanges found ∧ spec ≠ [] := by
  rw [← unaltered, List.mem_filter, decide_eq_true_iff]

theorem keptRanges_nil_iff : keptRanges found = [] ↔ items allowedIpsKey found = [] := by
  change ((items allowedIpsKey found).take MAX_IP_RANGES).map _ = [] ↔ _
  rw [List.map_eq_nil_iff, List.take_eq_nil_iff]
  simp [MAX_IP_RANGES]

theorem admitted_iff (sound : Sound found) {ip : CString} {addr : UInt32} (quad : Quad ip addr) :
    ipAllowed (keptRanges found) ip = true ↔ addr ∈ meantSet found := by
  have unaltered := unaltered_iff.mpr ⟨sound.noneBehind, sound.fits⟩
  have each (spec : CString) (member : spec ∈ listed found) :=
    @contains_denotes spec ip addr (listed_trim member) (sound.fits spec member)
      (sound.strict spec member) quad
  rw [ipAllowed_iff]
  unfold meantSet
  rw [Set.mem_ofPred_eq]
  constructor
  · rintro ⟨-, empty | ⟨spec, member, contains⟩⟩ limited
    · exact absurd (keptRanges_nil_iff.mp empty) (sound.someItem limited)
    · have nonblank : spec ≠ [] := by
        rintro rfl
        rw [blank_contains] at contains
        cases contains
      have inside := (mem_kept_iff unaltered).mpr ⟨member, nonblank⟩
      exact ⟨spec, inside, (each spec inside).mp contains⟩
  · intro meant
    refine ⟨(quad_length quad).2, ?_⟩
    by_cases limited : Limited found
    · obtain ⟨spec, member, denoted⟩ := meant limited
      exact .inr ⟨spec, ((mem_kept_iff unaltered).mp member).1, (each spec member).mpr denoted⟩
    · exact .inl (keptRanges_nil_iff.mpr (items_nil_of_unlimited limited))

theorem kept_means_iff (accepted : validateIpSpecList (keptRanges found) = true) :
    Means found (keptRanges found) (ipAllowed (keptRanges found)) ↔ Sound found := by
  constructor
  · intro honest
    obtain ⟨noneBehind, fits⟩ := unaltered_iff.mp honest.unaltered
    refine ⟨?_, noneBehind, fits, ?_⟩
    · exact fun limited empty => honest.unrestricted (keptRanges_nil_iff.mpr empty) limited
    · intro spec member loose
      obtain ⟨set, denotes⟩ := honest.wellFormed spec member
      exact loose_not_denotes loose denotes
  · intro sound
    have unaltered := unaltered_iff.mpr ⟨sound.noneBehind, sound.fits⟩
    refine ⟨?_, fun ip addr quad => admitted_iff sound quad, unaltered, ?_⟩
    · intro spec member
      obtain ⟨inside, nonblank⟩ := (mem_kept_iff unaltered).mp member
      have checked := List.all_eq_true.mp accepted spec inside
      rw [Bool.or_eq_true, beq_iff_eq, Bool.or_eq_true] at checked
      exact accepted_denotes (listed_trim member) (sound.fits spec member)
        (sound.strict spec member) (checked.resolve_left nonblank)
    · exact fun empty limited => sound.someItem limited (keptRanges_nil_iff.mp empty)

end Checks

section Loaded

variable {files : Files} {document : IniDocument} {draft : Draft}

theorem userOf_allowedIps (found : IniSection) : (userOf found).allowedIps = keptRanges found :=
  @foldl_items _ _ (fun item : DraftUser => item.allowedIps) _ _ _ consumeUserEntry_allowedIps
    found _

theorem serverOf_allowedIps (found : IniSection) : (serverOf found).allowedIps = keptRanges found :=
  @foldl_items _ _ (fun item : DraftServer => item.allowedIps) _ _ _ consumeServerEntry_allowedIps
    found _

theorem draft_actions (sections : List IniSection) (path : CString) :
    (sections.foldl consumeSection { defaults with privKeyPath := path }).actions =
      ((sections.filter isAction).take MAX_ACTIONS).map actionOf := by
  rw [List.map_take]
  exact foldl_appendItem consumeSection_actions sections _ (Nat.zero_le _)

theorem consumeDocument_checked (consumed : consumeDocument files document = some draft) :
    ∃ path, validateIpConstraints
      (document.sections.foldl consumeSection { defaults with privKeyPath := path }) = true := by
  obtain ⟨path, globals⟩ := globals_path document.globals
  refine ⟨path, ?_⟩
  unfold consumeDocument at consumed
  dsimp only at consumed
  rw [globals] at consumed
  split at consumed
  · cases consumed
  split at consumed
  · cases consumed
  split at consumed
  · cases consumed
  · rename_i checked
    rwa [Bool.not_eq_true', Bool.not_eq_false] at checked

theorem consumed_ranges (consumed : consumeDocument files document = some draft)
    {found : IniSection} (member : found ∈ kept isUser MAX_USERS document ∨
      found ∈ kept isAction MAX_ACTIONS document ∨ found ∈ kept isServer MAX_SERVERS document) :
    validateIpSpecList (keptRanges found) = true := by
  obtain ⟨path, checked⟩ := consumeDocument_checked consumed
  unfold validateIpConstraints at checked
  rw [Bool.and_eq_true, Bool.and_eq_true, draft_users, draft_actions, draft_servers]
    at checked
  obtain ⟨⟨users, actions⟩, servers⟩ := checked
  rcases member with user | action | server
  · rw [← userOf_allowedIps]
    exact List.all_eq_true.mp users _ (List.mem_map_of_mem user)
  · rw [← actionOf_allowedIps]
    exact List.all_eq_true.mp actions _ (List.mem_map_of_mem action)
  · have here := List.all_eq_true.mp servers _ (List.mem_map_of_mem server)
    rw [← serverOf_allowedIps]
    exact (Bool.and_eq_true_iff.mp here).1

/-- The allowlists of a loaded configuration mean what their sections say exactly where the
texts are sound. -/
theorem allowlists_mean_iff {path : CString} {cfg : Config}
    (loaded : loadDetached files path = some cfg) : ∃ document master,
    files.readIni path = some document ∧
    List.Forall₂ (fun found user => ownUser files found = some user ∧
      (Means found user.allowedIps (userIpAllowed user) ↔ Sound found))
      (kept isUser MAX_USERS document) cfg.users ∧
    List.Forall₂ (fun found action => actionOf found = action ∧
      (Means found action.allowedIps (actionIpAllowed action) ↔ Sound found))
      (kept isAction MAX_ACTIONS document) cfg.actions ∧
    List.Forall₂ (fun found server => ownServer files master found = some server ∧
      (Means found server.allowedIps (serverIpAllowed server) ↔ Sound found))
      (kept isServer MAX_SERVERS document) cfg.servers := by
  obtain ⟨document, master, parsed, users, actions, servers⟩ := loaded_sections loaded
  obtain ⟨document', draft, parsed', consumed, -⟩ := loadDetached_some loaded
  obtain rfl := Option.some.inj (parsed.symm.trans parsed')
  refine ⟨document, master, parsed, ?_, ?_, ?_⟩
  · have checked : ∀ found ∈ kept isUser MAX_USERS document,
        validateIpSpecList (keptRanges found) = true :=
      fun found member => consumed_ranges consumed (.inl member)
    refine ((List.forall₂_and_left _ _).mpr ⟨checked, users⟩).imp ?_
    rintro found user ⟨accepted, own⟩
    refine ⟨own, ?_⟩
    unfold userIpAllowed
    rw [(ownUser_fields own).2.2.2]
    exact kept_means_iff accepted
  · rw [actions, List.forall₂_map_right_iff, List.forall₂_same]
    intro found member
    refine ⟨rfl, ?_⟩
    unfold actionIpAllowed
    rw [actionOf_allowedIps]
    exact kept_means_iff (consumed_ranges consumed (.inr (.inl member)))
  · have checked : ∀ found ∈ kept isServer MAX_SERVERS document,
        validateIpSpecList (keptRanges found) = true :=
      fun found member => consumed_ranges consumed (.inr (.inr member))
    refine ((List.forall₂_and_left _ _).mpr ⟨checked, servers⟩).imp ?_
    rintro found server ⟨accepted, own⟩
    refine ⟨own, ?_⟩
    unfold serverIpAllowed
    rw [(ownServer_fields own).2]
    exact kept_means_iff accepted

end Loaded

section Commas

def commaSection : IniSection :=
  ⟨ascii "server:a".toList, [⟨allowedIpsKey, ascii [',']⟩]⟩

def commaFiles : Files where
  readIni _ := some ⟨[], [commaSection]⟩
  privateKey _ := some 1
  rsaPublicKey _ := none
  hmacFile _ := none
  supportsDynamic _ _ := false

def commaServer : Server := { (serverOf commaSection).toServer with port := 50000 }

theorem comma_loads :
    loadDetached commaFiles (ascii ['c']) = some ⟨[], [], [commaServer], []⟩ := by
  decide +kernel

theorem comma_servers_mean_iff : ∃ document master,
    commaFiles.readIni (ascii ['c']) = some document ∧
    List.Forall₂ (fun found server => ownServer commaFiles master found = some server ∧
      (Means found server.allowedIps (serverIpAllowed server) ↔ Sound found))
      (kept isServer MAX_SERVERS document) [commaServer] := by
  obtain ⟨document, master, parsed, -, -, servers⟩ := allowlists_mean_iff comma_loads
  exact ⟨document, master, parsed, servers⟩

/-- The list that names no address lets every address in. -/
theorem comma_unrestricted :
    loadDetached commaFiles (ascii ['c']) = some ⟨[], [], [commaServer], []⟩ ∧
    ownServer commaFiles (some 1) commaSection = some commaServer ∧
    ¬ Means commaSection commaServer.allowedIps (serverIpAllowed commaServer) ∧
    ∀ ip, ip ≠ [] → serverIpAllowed commaServer ip = true := by
  have none : commaServer.allowedIps = [] := by decide +kernel
  refine ⟨comma_loads, by decide +kernel, ?_, ?_⟩
  · intro honest
    exact honest.unrestricted none ⟨_, List.mem_singleton_self _, rfl⟩
  · intro ip nonempty
    unfold serverIpAllowed
    rw [none, ipAllowed_iff]
    exact ⟨nonempty, .inl rfl⟩

end Commas

end Siglatch.AppAllowlists
