import Siglatch.AppConfigSections

set_option autoImplicit false

namespace Siglatch.AppConfigForm
open MuxTypes AppConfig DaemonPayload NetIpRange LibStr AppBuiltin AppConfigLoad AppConfigSections
open RelatedLists

/-! What holds of every configuration that the loader accepts. -/

structure Holds (count size : ℕ) (items : List CString) : Prop where
  count : items.length ≤ count
  size : ∀ item ∈ items, item.length < size

structure UserFits (user : User) : Prop where
  name : user.name.length < 64
  actions : Holds MAX_ACTIONS MAX_ACTION_NAME user.actions
  allowedIps : Holds MAX_IP_RANGES MAX_IP_RANGE_LEN user.allowedIps

structure HasKeys (user : User) : Prop where
  pubkey : user.pubkey ≠ none
  length : user.hmacKey.length = 32
  nonzero : user.hmacKey.any (· ≠ 0) = true

structure ActionFits (action : Action) : Prop where
  name : action.name.length < MAX_ACTION_NAME
  label : action.label.length < MAX_ACTION_NAME
  builtin : action.builtin.length < MAX_BUILTIN_NAME
  constructor : action.constructor.length < PATH_MAX
  runAs : action.runAs.length < MAX_RUN_AS_NAME
  allowedIps : Holds MAX_IP_RANGES MAX_IP_RANGE_LEN action.allowedIps
  object : action.object.length < MAX_OBJECT_NAME
  objectPath : action.objectPath.length < PATH_MAX

/-- An action says what its handler needs, and nothing of what another one needs. -/
def Handles (action : Action) : Prop :=
  match action.handler with
  | .shell => action.constructor ≠ [] ∧ action.builtin = [] ∧ action.object = [] ∧
      action.objectPath = []
  | .builtin => supports action.builtin = true ∧ action.constructor = [] ∧ action.object = [] ∧
      action.objectPath = [] ∧ action.runAs = []
  | .static => supportsStatic action.object = true ∧ action.constructor = [] ∧
      action.builtin = [] ∧ action.objectPath = []
  | .dynamic => action.object ≠ [] ∧ action.objectPath ≠ [] ∧ action.constructor = [] ∧
      action.builtin = []
  | .invalid => False

structure ServerFits (server : Server) : Prop where
  name : server.name.length < MAX_SERVER_NAME
  actions : Holds MAX_ACTIONS MAX_ACTION_NAME server.actions
  deaddrops : Holds MAX_ACTIONS MAX_ACTION_NAME server.deaddrops
  allowedIps : Holds MAX_IP_RANGES MAX_IP_RANGE_LEN server.allowedIps

/-- A server listens on an IPv4 address, or any, and a port. -/
structure Bound (server : Server) : Prop where
  fits : server.bindIp.length < MAX_IP_RANGE_LEN
  address : server.bindIp = [] ∨ isSingleIpv4 server.bindIp = true
  port : server.port ≠ 0

structure DeaddropFits (deaddrop : Deaddrop) : Prop where
  name : deaddrop.name.length < MAX_DEADDROP_NAME
  constructor : deaddrop.constructor.length < MAX_PATH_LEN
  runAs : deaddrop.runAs.length < MAX_RUN_AS_NAME
  startsWith : Holds MAX_FILTERS MAX_FILTER_LEN deaddrop.startsWith

structure WellFormed (cfg : Config) : Prop where
  user_count : cfg.users.length ≤ MAX_USERS
  action_count : cfg.actions.length ≤ MAX_ACTIONS
  server_count : cfg.servers.length ≤ MAX_SERVERS
  deaddrop_count : cfg.deaddrops.length ≤ MAX_DEADDROPS
  users : ∀ user ∈ cfg.users, UserFits user ∧ validateIpSpecList user.allowedIps = true ∧
    (user.enabled = true → HasKeys user)
  actions : ∀ action ∈ cfg.actions,
    ActionFits action ∧ validateIpSpecList action.allowedIps = true ∧ Handles action
  servers : ∀ server ∈ cfg.servers, ServerFits server ∧
    validateIpSpecList server.allowedIps = true ∧ Bound server ∧ server.name ≠ []
  distinct : (cfg.servers.map (·.name)).Nodup
  deaddrops : ∀ deaddrop ∈ cfg.deaddrops, DeaddropFits deaddrop

section Texts

theorem lcpy_fits {size : ℕ} (room : 0 < size) (text : CString) :
    (lcpy text size).length < size := by
  unfold lcpy
  rw [List.length_take]
  omega

theorem parseCsvFixed_holds {count size : ℕ} {items : List CString} (room : 0 < size)
    (holds : Holds count size items) (value : CString) :
    Holds count size (parseCsvFixed items count size value) := by
  unfold parseCsvFixed
  constructor
  · have before := holds.count
    rw [List.length_append, List.length_map, List.length_take]
    omega
  · intro item member
    rcases List.mem_append.mp member with old | new
    · exact holds.size item old
    · obtain ⟨token, -, rfl⟩ := List.mem_map.mp new
      exact lcpy_fits room _

theorem nil_fits {size : ℕ} (room : 0 < size) : ([] : CString).length < size := room

theorem holds_nil (count size : ℕ) : Holds count size [] :=
  ⟨Nat.zero_le count, fun _ member => absurd member List.not_mem_nil⟩

end Texts

section Entries

theorem kept_ite {α : Type*} (Fits : α → Prop) {c : Prop} [Decidable c] {first second : α}
    (yes : Fits first) (no : Fits second) : Fits (if c then first else second) := by
  split
  · exact yes
  · exact no

-- An entry writes one field, from a text that is cut to the field's size, or none that is measured.

theorem consumeUserEntry_fits {user : DraftUser} (fits : UserFits user.toUser) (entry : IniEntry) :
    UserFits (consumeUserEntry user entry).toUser := by
  obtain ⟨name, actions, allowedIps⟩ := fits
  unfold consumeUserEntry
  dsimp only
  repeat' apply kept_ite fun item : DraftUser => UserFits item.toUser
  all_goals
    constructor
    all_goals first
      | assumption
      | exact parseCsvFixed_holds (by decide) actions _
      | exact parseCsvFixed_holds (by decide) allowedIps _

theorem consumeActionEntry_fits {action : Action} (fits : ActionFits action)
    (entry : IniEntry) : ActionFits (consumeActionEntry action entry) := by
  obtain ⟨name, label, builtin, program, runAs, allowedIps, object, objectPath⟩ := fits
  unfold consumeActionEntry
  dsimp only
  repeat' apply kept_ite fun item : Action => ActionFits item
  all_goals
    constructor
    all_goals first
      | assumption
      | exact lcpy_fits (by decide) _
      | exact parseCsvFixed_holds (by decide) allowedIps _

theorem consumeServerEntry_fits {server : DraftServer}
    (fits : ServerFits server.toServer ∧ server.bindIp.length < MAX_IP_RANGE_LEN)
    (entry : IniEntry) : ServerFits (consumeServerEntry server entry).toServer ∧
      (consumeServerEntry server entry).bindIp.length < MAX_IP_RANGE_LEN := by
  obtain ⟨⟨name, actions, deaddrops, allowedIps⟩, bindIp⟩ := fits
  unfold consumeServerEntry
  dsimp only
  repeat' apply kept_ite fun item : DraftServer =>
    ServerFits item.toServer ∧ item.bindIp.length < MAX_IP_RANGE_LEN
  all_goals
    refine ⟨⟨?_, ?_, ?_, ?_⟩, ?_⟩
    all_goals first
      | assumption
      | exact lcpy_fits (by decide) _
      | exact parseCsvFixed_holds (by decide) actions _
      | exact parseCsvFixed_holds (by decide) deaddrops _
      | exact parseCsvFixed_holds (by decide) allowedIps _

theorem consumeDeaddropEntry_fits {deaddrop : Deaddrop} (fits : DeaddropFits deaddrop)
    (entry : IniEntry) : DeaddropFits (consumeDeaddropEntry deaddrop entry) := by
  obtain ⟨name, program, runAs, startsWith⟩ := fits
  unfold consumeDeaddropEntry
  dsimp only
  repeat' apply kept_ite DeaddropFits
  all_goals
    constructor
    all_goals first
      | assumption
      | exact lcpy_fits (by decide) _
      | exact parseCsvFixed_holds (by decide) startsWith _

theorem foldl_fits {α : Type*} {consume : α → IniEntry → α} {Fits : α → Prop}
    (kept : ∀ item entry, Fits item → Fits (consume item entry)) (entries : List IniEntry)
    {item : α} (fits : Fits item) : Fits (entries.foldl consume item) := by
  induction entries generalizing item with
  | nil => exact fits
  | cons entry entries ih => exact ih (kept item entry fits)

end Entries

section Sections

structure DraftFits (draft : Draft) : Prop where
  user_count : draft.users.length ≤ MAX_USERS
  action_count : draft.actions.length ≤ MAX_ACTIONS
  server_count : draft.servers.length ≤ MAX_SERVERS
  deaddrop_count : draft.deaddrops.length ≤ MAX_DEADDROPS
  users : ∀ user ∈ draft.users, UserFits user.toUser
  actions : ∀ action ∈ draft.actions, ActionFits action
  servers : ∀ server ∈ draft.servers,
    ServerFits server.toServer ∧ server.bindIp.length < MAX_IP_RANGE_LEN
  deaddrops : ∀ deaddrop ∈ draft.deaddrops, DeaddropFits deaddrop

theorem appendItem_keeps {α : Type*} {Fits : α → Prop} {limit : ℕ} {items : List α} {new : α}
    (room : items.length ≤ limit) (fits : ∀ item ∈ items, Fits item) (new_fits : Fits new) :
    (appendItem limit items new).length ≤ limit ∧
      ∀ item ∈ appendItem limit items new, Fits item := by
  unfold appendItem
  split
  · exact ⟨room, fits⟩
  · refine ⟨?_, ?_⟩
    · rw [List.length_append, List.length_singleton]
      omega
    · intro item member
      rcases List.mem_append.mp member with old | same
      · exact fits item old
      · rw [List.mem_singleton.mp same]
        exact new_fits

theorem newUser_fits (name : CString) : UserFits (newUser name).toUser :=
  ⟨lcpy_fits (by decide) _, holds_nil _ _, holds_nil _ _⟩

theorem newAction_fits (name : CString) : ActionFits (newAction name) :=
  ⟨lcpy_fits (by decide) _, nil_fits (by decide), nil_fits (by decide), nil_fits (by decide),
    nil_fits (by decide), holds_nil _ _, nil_fits (by decide), nil_fits (by decide)⟩

theorem newServer_fits (name : CString) : ServerFits (newServer name).toServer ∧
    (newServer name).bindIp.length < MAX_IP_RANGE_LEN :=
  ⟨⟨lcpy_fits (by decide) _, holds_nil _ _, holds_nil _ _, holds_nil _ _⟩,
    nil_fits (by decide)⟩

theorem newDeaddrop_fits (name : CString) : DeaddropFits (newDeaddrop name) :=
  ⟨lcpy_fits (by decide) _, nil_fits (by decide), nil_fits (by decide), holds_nil _ _⟩

theorem consumeSection_fits {draft : Draft} (fits : DraftFits draft) (found : IniSection) :
    DraftFits (consumeSection draft found) := by
  unfold consumeSection
  split
  · obtain ⟨count, all⟩ := appendItem_keeps fits.user_count fits.users
      (@foldl_fits _ _ (fun item : DraftUser => UserFits item.toUser)
        (fun _ entry fits => consumeUserEntry_fits fits entry) found.entries _
        (newUser_fits (found.name.drop 5)))
    exact { fits with user_count := count, users := all }
  split
  · obtain ⟨count, all⟩ := appendItem_keeps fits.action_count fits.actions
      (@foldl_fits _ _ (fun item : Action => ActionFits item)
        (fun _ entry fits => consumeActionEntry_fits fits entry) found.entries _
        (newAction_fits (found.name.drop 7)))
    exact { fits with action_count := count, actions := all }
  split
  · obtain ⟨count, all⟩ := appendItem_keeps fits.server_count fits.servers
      (@foldl_fits _ _ (fun item : DraftServer => ServerFits item.toServer ∧
        item.bindIp.length < MAX_IP_RANGE_LEN)
        (fun _ entry fits => consumeServerEntry_fits fits entry) found.entries _
        (newServer_fits (found.name.drop 7)))
    exact { fits with server_count := count, servers := all }
  split
  · obtain ⟨count, all⟩ := appendItem_keeps fits.deaddrop_count fits.deaddrops
      (@foldl_fits _ _ DeaddropFits (fun _ entry fits => consumeDeaddropEntry_fits fits entry)
        found.entries _ (newDeaddrop_fits (found.name.drop 9)))
    exact { fits with deaddrop_count := count, deaddrops := all }
  · exact fits

theorem sections_fits (sections : List IniSection) (path : CString) :
    DraftFits (sections.foldl consumeSection { defaults with privKeyPath := path }) := by
  have step : ∀ draft, DraftFits draft → DraftFits (sections.foldl consumeSection draft) := by
    induction sections with
    | nil => exact fun _ fits => fits
    | cons found sections ih => exact fun draft fits => ih _ (consumeSection_fits fits found)
  apply step
  refine ⟨Nat.zero_le _, Nat.zero_le _, Nat.zero_le _, Nat.zero_le _, ?_, ?_, ?_, ?_⟩
  all_goals exact fun _ member => absurd member List.not_mem_nil

structure Accepted (files : Files) (draft : Draft) : Prop where
  fits : DraftFits draft
  names : validateUniqueServerNames draft.servers = true
  handlers : ∀ action ∈ draft.actions, validateActionHandler files action = true
  ranges : validateIpConstraints draft = true

theorem consumeDocument_accepted {files : Files} {document : IniDocument} {draft : Draft}
    (consumed : consumeDocument files document = some draft) : ∃ raw,
      draft = applyServerRuntimeDefaults raw ∧ Accepted files raw := by
  obtain ⟨path, globals⟩ := globals_path document.globals
  unfold consumeDocument at consumed
  dsimp only at consumed
  rw [globals] at consumed
  split at consumed
  · cases consumed
  rename_i names
  split at consumed
  · cases consumed
  rename_i handlers
  split at consumed
  · cases consumed
  rename_i ranges
  refine ⟨_, (Option.some.inj consumed).symm, sections_fits document.sections path, ?_, ?_, ?_⟩
  · simpa using names
  · simpa using handlers
  · simpa using ranges

end Sections

section Keys

variable {files : Files}

theorem hexBytes_length (digits : Bytes) : (hexBytes digits).length = digits.length / 2 := by
  induction digits using hexBytes.induct with
  | case1 high low rest ih =>
    rw [hexBytes, List.length_cons, ih, List.length_cons, List.length_cons]
    omega
  | case2 digits short =>
    rw [hexBytes]
    · rcases digits with - | ⟨one, - | ⟨two, rest⟩⟩
      · rfl
      · simp
      · exact absurd rfl (short one two rest)
    · exact short

theorem hmacKeyNormalize_some {input key : Bytes} (made : hmacKeyNormalize input = some key) :
    key.length = 32 ∧ key.any (· ≠ 0) = true := by
  unfold hmacKeyNormalize at made
  dsimp only at made
  obtain ⟨found, nonzero⟩ := Option.filter_eq_some_iff.mp made
  refine ⟨?_, nonzero⟩
  split at found
  · rename_i whole
    rw [← Option.some.inj found]
    exact whole
  split at found
  · rename_i hex
    rw [← Option.some.inj found, hexBytes_length, hex.1]
  · cases found

theorem loadUserKey_pubkey {user keyed : DraftUser} (loaded : loadUserKey files user = some keyed)
    (enabled : user.enabled = true) : keyed.pubkey ≠ none := by
  unfold loadUserKey at loaded
  rw [enabled, if_neg (by decide)] at loaded
  obtain ⟨key, -, rfl⟩ := Option.map_eq_some_iff.mp loaded
  exact Option.some_ne_none key

theorem loadHmac_key {user keyed : DraftUser} (loaded : loadHmac files user = some keyed)
    (enabled : user.enabled = true) :
    keyed.hmacKey.length = 32 ∧ keyed.hmacKey.any (· ≠ 0) = true := by
  unfold loadHmac at loaded
  rw [enabled, if_neg (by decide)] at loaded
  obtain ⟨content, -, loaded⟩ := Option.bind_eq_some_iff.mp loaded
  split at loaded
  · cases loaded
  · obtain ⟨key, made, loaded⟩ := Option.bind_eq_some_iff.mp loaded
    cases loaded
    exact hmacKeyNormalize_some made

theorem loaded_user {draft : DraftUser} {user : User}
    (made : ((loadUserKey files draft).bind (loadHmac files)).map (·.toUser) = some user)
    (fits : UserFits draft.toUser) (ranges : validateIpSpecList draft.allowedIps = true) :
    UserFits user ∧ validateIpSpecList user.allowedIps = true ∧
      (user.enabled = true → HasKeys user) := by
  obtain ⟨signed, loaded, rfl⟩ := Option.map_eq_some_iff.mp made
  obtain ⟨keyed, loadedKey, loadedHmac⟩ := Option.bind_eq_some_iff.mp loaded
  have pubkey := loadUserKey_pubkey loadedKey
  have hmacKey := loadHmac_key loadedHmac
  obtain ⟨key, rfl⟩ := loadUserKey_some loadedKey
  obtain ⟨secret, rfl⟩ := loadHmac_some loadedHmac
  refine ⟨⟨fits.name, fits.actions, fits.allowedIps⟩, ranges, fun enabled => ?_⟩
  exact ⟨pubkey enabled, (hmacKey enabled).1, (hmacKey enabled).2⟩

theorem loaded_server_name {master : Option EvpPkey} {draft : DraftServer} {server : Server}
    (made : (loadServerKey files master (withDefaultPort draft)).map (·.toServer) = some server) :
    server.name = draft.name := by
  obtain ⟨keyed, loaded, rfl⟩ := Option.map_eq_some_iff.mp made
  obtain ⟨key, rfl⟩ := loadServerKey_some loaded
  rfl

theorem loaded_server {master : Option EvpPkey} {draft : DraftServer} {server : Server}
    (made : (loadServerKey files master (withDefaultPort draft)).map (·.toServer) = some server)
    (fits : ServerFits draft.toServer ∧ draft.bindIp.length < MAX_IP_RANGE_LEN)
    (ranges : validateIpSpecList draft.allowedIps = true)
    (address : draft.bindIp = [] ∨ isSingleIpv4 draft.bindIp = true) :
    ServerFits server ∧ validateIpSpecList server.allowedIps = true ∧ Bound server := by
  obtain ⟨keyed, loaded, rfl⟩ := Option.map_eq_some_iff.mp made
  obtain ⟨key, rfl⟩ := loadServerKey_some loaded
  refine ⟨⟨fits.1.name, fits.1.actions, fits.1.deaddrops, fits.1.allowedIps⟩, ranges,
    fits.2, address, ?_⟩
  unfold withDefaultPort
  dsimp only
  split
  · decide
  · assumption

theorem validateActionHandler_handles {action : Action}
    (valid : validateActionHandler files action = true) : Handles action := by
  unfold validateActionHandler at valid
  unfold Handles
  cases handler : action.handler with
  | invalid =>
    rw [handler] at valid
    cases valid
  | shell =>
    simp only [handler, Bool.and_eq_true, bne_iff_ne, beq_iff_eq] at valid
    obtain ⟨program, ⟨builtin, object⟩, path⟩ := valid
    exact ⟨program, builtin, object, path⟩
  | builtin =>
    simp only [handler, Bool.and_eq_true, bne_iff_ne, beq_iff_eq] at valid
    obtain ⟨⟨⟨⟨-, program⟩, object, path⟩, runAs⟩, known⟩ := valid
    exact ⟨known, program, object, path, runAs⟩
  | static =>
    simp only [handler, Bool.and_eq_true, bne_iff_ne, beq_iff_eq] at valid
    obtain ⟨⟨-, ⟨program, builtin⟩, path⟩, known⟩ := valid
    exact ⟨known, program, builtin, path⟩
  | dynamic =>
    simp only [handler, Bool.and_eq_true, bne_iff_ne, beq_iff_eq] at valid
    obtain ⟨⟨⟨object, path⟩, program, builtin⟩, -⟩ := valid
    exact ⟨object, path, program, builtin⟩

theorem loadKeys_deaddrops {draft : Draft} {cfg : Config}
    (loaded : loadKeys files draft = some cfg) : cfg.deaddrops = draft.deaddrops := by
  unfold loadKeys at loaded
  simp only [Option.bind_eq_bind, Option.bind_eq_some_iff, Option.some.injEq] at loaded
  obtain ⟨-, -, -, -, -, -, -, -, rfl⟩ := loaded
  rfl

end Keys

section Loaded

variable {files : Files} {path : CString} {cfg : Config}

/-- Every configuration that the loader accepts is well formed. -/
theorem loaded_wellFormed (loaded : loadDetached files path = some cfg) : WellFormed cfg := by
  obtain ⟨document, draft, -, consumed, keyed⟩ := loadDetached_some loaded
  obtain ⟨raw, rfl, accepted⟩ := consumeDocument_accepted consumed
  obtain ⟨master, users, servers⟩ := loadKeys_some keyed
  have actions := loadKeys_actions keyed
  have deaddrops := loadKeys_deaddrops keyed
  have ranges := accepted.ranges
  unfold validateIpConstraints at ranges
  rw [Bool.and_eq_true, Bool.and_eq_true] at ranges
  obtain ⟨⟨userRanges, actionRanges⟩, serverRanges⟩ := ranges
  have names := accepted.names
  unfold validateUniqueServerNames at names
  rw [Bool.and_eq_true, decide_eq_true_iff] at names
  change List.Forall₂ _ raw.users cfg.users at users
  change List.Forall₂ _ (raw.servers.map withDefaultPort) cfg.servers at servers
  rw [List.forall₂_map_left_iff] at servers
  change cfg.actions = raw.actions at actions
  change cfg.deaddrops = raw.deaddrops at deaddrops
  have fits := accepted.fits
  have server_loaded (own : DraftServer) (member : own ∈ raw.servers) (server : Server)
      (made : (loadServerKey files master (withDefaultPort own)).map (·.toServer) = some server) :
      ServerFits server ∧ validateIpSpecList server.allowedIps = true ∧ Bound server := by
    have checked := List.all_eq_true.mp serverRanges own member
    simp only [Bool.and_eq_true, Bool.or_eq_true, beq_iff_eq] at checked
    exact loaded_server made (fits.servers own member) checked.1 checked.2
  have same_names : cfg.servers.map (·.name) = raw.servers.map (·.name) := by
    rw [← List.forall₂_eq_eq_eq, List.forall₂_map_left_iff, List.forall₂_map_right_iff]
    exact servers.flip.imp fun server own made => loaded_server_name made
  refine ⟨?_, ?_, ?_, ?_, ?_, ?_, ?_, ?_, ?_⟩
  · rw [← users.length_eq]
    exact fits.user_count
  · rw [actions]
    exact fits.action_count
  · rw [← servers.length_eq]
    exact fits.server_count
  · rw [deaddrops]
    exact fits.deaddrop_count
  · intro user member
    obtain ⟨own, found, made⟩ := (mem_made users user).mp member
    exact loaded_user made (fits.users own found) (List.all_eq_true.mp userRanges own found)
  · intro action member
    rw [actions] at member
    exact ⟨fits.actions action member, List.all_eq_true.mp actionRanges action member,
      validateActionHandler_handles (accepted.handlers action member)⟩
  · intro server member
    obtain ⟨own, found, made⟩ := (mem_made servers server).mp member
    obtain ⟨serverFits, specs, bound⟩ := server_loaded own found server made
    refine ⟨serverFits, specs, bound, ?_⟩
    rw [loaded_server_name made]
    simpa using List.all_eq_true.mp names.1 own found
  · rw [same_names]
    exact names.2
  · rw [deaddrops]
    exact fits.deaddrops

end Loaded

end Siglatch.AppConfigForm
