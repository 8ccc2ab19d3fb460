import Siglatch.AppConfigLoad
import Siglatch.RelatedLists

set_option autoImplicit false

namespace Siglatch.AppConfigSections
open MuxTypes AppConfig DaemonPayload LibStr AppBuiltin AppConfigLoad RelatedLists

def isUser (found : IniSection) : Bool := (ascii "user:".toList).isPrefixOf found.name
def isServer (found : IniSection) : Bool := (ascii "server:".toList).isPrefixOf found.name

/-- The sections of one kind that its array has room for. -/
def kept (belongs : IniSection → Bool) (limit : ℕ) (document : IniDocument) : List IniSection :=
  (document.sections.filter belongs).take limit

def userOf (found : IniSection) : DraftUser :=
  found.entries.foldl consumeUserEntry (newUser (found.name.drop 5))

def serverOf (found : IniSection) : DraftServer :=
  found.entries.foldl consumeServerEntry (newServer (found.name.drop 7))

def actionName (found : IniSection) : CString := found.name.drop 7

def statedEnabled (before : Bool) (found : IniSection) : Bool :=
  stated (ascii "enabled".toList) switch before found

/-- All items that a section lists under a key, as they are written. -/
def items (key : CString) (found : IniSection) : List CString :=
  (found.entries.filter (·.key = key)).flatMap fun entry => (tokens entry.value).map trim

/-- The user of a section with its own keys, as far as the key files can be read. -/
def ownUser (files : Files) (found : IniSection) : Option User :=
  ((loadUserKey files (userOf found)).bind (loadHmac files)).map (·.toUser)

def withDefaultPort (server : DraftServer) : DraftServer :=
  { server with port := if server.port = 0 then 50000 else server.port }

/-- The server of a section with its own key, or the master key if it names none. -/
def ownServer (files : Files) (master : Option EvpPkey) (found : IniSection) : Option Server :=
  (loadServerKey files master (withDefaultPort (serverOf found))).map (·.toServer)

def keptItems (key : CString) (maxItems itemSize : ℕ) (found : IniSection) : List CString :=
  ((items key found).take maxItems).map (lcpy · itemSize)

def keptActions (found : IniSection) : List CString :=
  keptItems (ascii "actions".toList) MAX_ACTIONS MAX_ACTION_NAME found

def keptRanges (found : IniSection) : List CString :=
  keptItems (ascii "allowed_ips".toList) MAX_IP_RANGES MAX_IP_RANGE_LEN found

section Fields

/-- A list that one key extends holds the first items of that key, each cut to its slot. -/
theorem foldl_items {α : Type*} {consume : α → IniEntry → α} {field : α → List CString}
    {key : CString} {maxItems itemSize : ℕ}
    (step : ∀ item entry, field (consume item entry) =
      if entry.key = key then parseCsvFixed (field item) maxItems itemSize entry.value
      else field item) (found : IniSection) (item : α) :
    field (found.entries.foldl consume item) = field item ++
      ((items key found).take (maxItems - (field item).length)).map (lcpy · itemSize) := by
  unfold items
  induction found.entries generalizing item with
  | nil => simp
  | cons entry entries ih =>
    rw [List.foldl_cons, ih, step, List.filter_cons]
    by_cases own : entry.key = key
    · have room : maxItems - ((field item).length +
          min (maxItems - (field item).length) (tokens entry.value).length) =
          maxItems - (field item).length - (tokens entry.value).length := by omega
      rw [if_pos own, if_pos (decide_eq_true own), List.flatMap_cons, List.take_append]
      unfold parseCsvFixed
      rw [List.length_append, List.length_map, List.length_take, room, List.length_map,
        List.map_append, List.append_assoc, ← List.map_take, List.map_map]
      rfl
    · have other : ¬ decide (entry.key = key) = true := fun same => own (of_decide_eq_true same)
      rw [if_neg own, if_neg other]

theorem consumeUserEntry_id (user : DraftUser) (entry : IniEntry) :
    (consumeUserEntry user entry).id =
      if entry.key = ascii "id".toList then idOf entry.value else user.id := by
  unfold consumeUserEntry
  dsimp only
  by_cases own : entry.key = ascii "id".toList
  · rw [if_pos own, own]
    rfl
  · rw [if_neg own, if_neg own]
    repeat apply field_ite (fun item : DraftUser => item.id) rfl
    rfl

theorem consumeUserEntry_enabled (user : DraftUser) (entry : IniEntry) :
    (consumeUserEntry user entry).enabled =
      if entry.key = ascii "enabled".toList then switch entry.value else user.enabled := by
  unfold consumeUserEntry
  dsimp only
  by_cases own : entry.key = ascii "enabled".toList
  · rw [if_pos own, if_pos own]
  · rw [if_neg own, if_neg own]
    repeat apply field_ite (fun item : DraftUser => item.enabled) rfl
    rfl

theorem consumeUserEntry_actions (user : DraftUser) (entry : IniEntry) :
    (consumeUserEntry user entry).actions =
      if entry.key = ascii "actions".toList then
        parseCsvFixed user.actions MAX_ACTIONS MAX_ACTION_NAME entry.value
      else user.actions := by
  unfold consumeUserEntry
  dsimp only
  by_cases own : entry.key = ascii "actions".toList
  · rw [if_pos own, own]
    rfl
  · rw [if_neg own, if_neg own]
    repeat apply field_ite (fun item : DraftUser => item.actions) rfl
    rfl

theorem consumeUserEntry_allowedIps (user : DraftUser) (entry : IniEntry) :
    (consumeUserEntry user entry).allowedIps =
      if entry.key = ascii "allowed_ips".toList then
        parseCsvFixed user.allowedIps MAX_IP_RANGES MAX_IP_RANGE_LEN entry.value
      else user.allowedIps := by
  unfold consumeUserEntry
  dsimp only
  by_cases own : entry.key = ascii "allowed_ips".toList
  · rw [if_pos own, own]
    rfl
  · rw [if_neg own, if_neg own]
    repeat apply field_ite (fun item : DraftUser => item.allowedIps) rfl
    rfl

theorem consumeActionEntry_name (action : Action) (entry : IniEntry) :
    (consumeActionEntry action entry).name = action.name := by
  unfold consumeActionEntry
  dsimp only
  repeat apply field_ite (fun item : Action => item.name) rfl
  rfl

theorem consumeActionEntry_enabled (action : Action) (entry : IniEntry) :
    (consumeActionEntry action entry).enabled =
      if entry.key = ascii "enabled".toList then switch entry.value else action.enabled := by
  unfold consumeActionEntry
  dsimp only
  by_cases own : entry.key = ascii "enabled".toList
  · rw [if_pos own, own]
    rfl
  · rw [if_neg own, if_neg own]
    repeat apply field_ite (fun item : Action => item.enabled) rfl
    rfl

theorem consumeActionEntry_allowedIps (action : Action) (entry : IniEntry) :
    (consumeActionEntry action entry).allowedIps =
      if entry.key = ascii "allowed_ips".toList then
        parseCsvFixed action.allowedIps MAX_IP_RANGES MAX_IP_RANGE_LEN entry.value
      else action.allowedIps := by
  unfold consumeActionEntry
  dsimp only
  by_cases own : entry.key = ascii "allowed_ips".toList
  · rw [if_pos own, own]
    rfl
  · rw [if_neg own, if_neg own]
    repeat apply field_ite (fun item : Action => item.allowedIps) rfl
    rfl

theorem consumeServerEntry_actions (server : DraftServer) (entry : IniEntry) :
    (consumeServerEntry server entry).actions =
      if entry.key = ascii "actions".toList then
        parseCsvFixed server.actions MAX_ACTIONS MAX_ACTION_NAME entry.value
      else server.actions := by
  unfold consumeServerEntry
  dsimp only
  by_cases own : entry.key = ascii "actions".toList
  · rw [if_pos own, own]
    rfl
  · rw [if_neg own, if_neg own]
    repeat apply field_ite (fun item : DraftServer => item.actions) rfl
    rfl

theorem consumeServerEntry_allowedIps (server : DraftServer) (entry : IniEntry) :
    (consumeServerEntry server entry).allowedIps =
      if entry.key = ascii "allowed_ips".toList then
        parseCsvFixed server.allowedIps MAX_IP_RANGES MAX_IP_RANGE_LEN entry.value
      else server.allowedIps := by
  unfold consumeServerEntry
  dsimp only
  by_cases own : entry.key = ascii "allowed_ips".toList
  · rw [if_pos own, own]
    rfl
  · rw [if_neg own, if_neg own]
    repeat apply field_ite (fun item : DraftServer => item.allowedIps) rfl
    rfl

theorem actionOf_name (found : IniSection) :
    (actionOf found).name = lcpy (actionName found) MAX_ACTION_NAME := by
  unfold actionOf
  induction found.entries using List.reverseRecOn with
  | nil => rfl
  | append_singleton entries entry ih =>
    rw [List.foldl_append, List.foldl_cons, List.foldl_nil, consumeActionEntry_name]
    exact ih

theorem actionOf_enabled (found : IniSection) :
    (actionOf found).enabled = statedEnabled true found :=
  @foldl_stated _ _ _ (fun item : Action => item.enabled) _ _ consumeActionEntry_enabled found _

theorem actionOf_allowedIps (found : IniSection) :
    (actionOf found).allowedIps = keptRanges found :=
  @foldl_items _ _ (fun item : Action => item.allowedIps) _ _ _
    consumeActionEntry_allowedIps found _

end Fields

section Keys

variable {files : Files} {found : IniSection}

theorem loadUserKey_some {user keyed : DraftUser} (loaded : loadUserKey files user = some keyed) :
    ∃ key, keyed = { user with pubkey := key } := by
  unfold loadUserKey at loaded
  split at loaded
  · exact ⟨user.pubkey, (Option.some.inj loaded).symm⟩
  · obtain ⟨key, -, rfl⟩ := Option.map_eq_some_iff.mp loaded
    exact ⟨some key, rfl⟩

theorem loadHmac_some {user keyed : DraftUser} (loaded : loadHmac files user = some keyed) :
    ∃ key, keyed = { user with hmacKey := key } := by
  unfold loadHmac at loaded
  split at loaded
  · exact ⟨user.hmacKey, (Option.some.inj loaded).symm⟩
  · obtain ⟨content, -, loaded⟩ := Option.bind_eq_some_iff.mp loaded
    split at loaded
    · cases loaded
    · obtain ⟨key, -, loaded⟩ := Option.bind_eq_some_iff.mp loaded
      exact ⟨key, (Option.some.inj loaded).symm⟩

theorem loadServerKey_some {master : Option EvpPkey} {server keyed : DraftServer}
    (loaded : loadServerKey files master server = some keyed) :
    ∃ key, keyed = { server with privKey := key } := by
  unfold loadServerKey at loaded
  split at loaded
  · exact ⟨server.privKey, (Option.some.inj loaded).symm⟩
  split at loaded
  · exact ⟨server.privKey, (Option.some.inj loaded).symm⟩
  split at loaded
  · exact ⟨master, (Option.some.inj loaded).symm⟩
  · obtain ⟨key, -, rfl⟩ := Option.map_eq_some_iff.mp loaded
    exact ⟨some key, rfl⟩

/-- The keys of a user are all that its files add. -/
theorem ownUser_fields {user : User} (own : ownUser files found = some user) :
    user.id = statedId found ∧ user.enabled = statedEnabled false found ∧
      user.actions = keptActions found ∧ user.allowedIps = keptRanges found := by
  obtain ⟨signed, loaded, rfl⟩ := Option.map_eq_some_iff.mp own
  obtain ⟨keyed, loadedKey, loadedHmac⟩ := Option.bind_eq_some_iff.mp loaded
  obtain ⟨key, rfl⟩ := loadUserKey_some loadedKey
  obtain ⟨hmacKey, rfl⟩ := loadHmac_some loadedHmac
  refine ⟨?_, ?_, ?_, ?_⟩
  · exact @foldl_stated _ _ _ (fun item : DraftUser => item.id) _ _ consumeUserEntry_id found _
  · exact @foldl_stated _ _ _ (fun item : DraftUser => item.enabled) _ _ consumeUserEntry_enabled
      found _
  · exact @foldl_items _ _ (fun item : DraftUser => item.actions) _ _ _ consumeUserEntry_actions
      found _
  · exact @foldl_items _ _ (fun item : DraftUser => item.allowedIps) _ _ _
      consumeUserEntry_allowedIps found _

theorem ownServer_fields {master : Option EvpPkey} {server : Server}
    (own : ownServer files master found = some server) :
    server.actions = keptActions found ∧ server.allowedIps = keptRanges found := by
  obtain ⟨keyed, loaded, rfl⟩ := Option.map_eq_some_iff.mp own
  obtain ⟨key, rfl⟩ := loadServerKey_some loaded
  constructor
  · exact @foldl_items _ _ (fun item : DraftServer => item.actions) _ _ _
      consumeServerEntry_actions found _
  · exact @foldl_items _ _ (fun item : DraftServer => item.allowedIps) _ _ _
      consumeServerEntry_allowedIps found _

end Keys

section Loaded

theorem consumeSection_users (draft : Draft) (found : IniSection) :
    (consumeSection draft found).users =
      if isUser found then appendItem MAX_USERS draft.users (userOf found) else draft.users := by
  unfold consumeSection isUser
  split
  · rfl
  · split
    · rfl
    · split
      · rfl
      · split
        · rfl
        · rfl

theorem consumeSection_servers (draft : Draft) (found : IniSection) :
    (consumeSection draft found).servers =
      if isServer found then appendItem MAX_SERVERS draft.servers (serverOf found)
      else draft.servers := by
  unfold consumeSection isServer
  split
  · rename_i user
    rw [kinds_differ user (by decide +kernel)]
    rfl
  · split
    · rename_i action
      rw [kinds_differ action (by decide +kernel)]
      rfl
    · split
      · rfl
      · split
        · rfl
        · rfl

theorem draft_users (sections : List IniSection) (path : CString) :
    (sections.foldl consumeSection { defaults with privKeyPath := path }).users =
      ((sections.filter isUser).take MAX_USERS).map userOf := by
  rw [List.map_take]
  exact foldl_appendItem consumeSection_users sections _ (Nat.zero_le _)

theorem draft_servers (sections : List IniSection) (path : CString) :
    (sections.foldl consumeSection { defaults with privKeyPath := path }).servers =
      ((sections.filter isServer).take MAX_SERVERS).map serverOf := by
  rw [List.map_take]
  exact foldl_appendItem consumeSection_servers sections _ (Nat.zero_le _)

variable {files : Files} {draft : Draft} {path : CString} {cfg : Config}

theorem loadKeys_some (loaded : loadKeys files draft = some cfg) : ∃ master,
    List.Forall₂ (fun user own =>
      ((loadUserKey files user).bind (loadHmac files)).map (·.toUser) = some own)
      draft.users cfg.users ∧
    List.Forall₂ (fun server own =>
      (loadServerKey files master server).map (·.toServer) = some own)
      draft.servers cfg.servers := by
  unfold loadKeys at loaded
  obtain ⟨master, -, loaded⟩ := Option.bind_eq_some_iff.mp loaded
  obtain ⟨keyed, keys, loaded⟩ := Option.bind_eq_some_iff.mp loaded
  obtain ⟨servers, serverKeys, loaded⟩ := Option.bind_eq_some_iff.mp loaded
  obtain ⟨users, hmacs, loaded⟩ := Option.bind_eq_some_iff.mp loaded
  obtain rfl := Option.some.inj loaded
  refine ⟨master, ?_, ?_⟩
  · exact forall₂_map (·.toUser) (forall₂_bind (mapM_forall₂ keys) (mapM_forall₂ hmacs))
  · exact forall₂_map (·.toServer) (mapM_forall₂ serverKeys)

/-- A loaded configuration holds the records of the sections that its arrays have room for, in
the order of the file. -/
theorem loaded_sections (loaded : loadDetached files path = some cfg) : ∃ document master,
    files.readIni path = some document ∧
    List.Forall₂ (fun found user => ownUser files found = some user)
      (kept isUser MAX_USERS document) cfg.users ∧
    cfg.actions = (kept isAction MAX_ACTIONS document).map actionOf ∧
    List.Forall₂ (fun found server => ownServer files master found = some server)
      (kept isServer MAX_SERVERS document) cfg.servers := by
  obtain ⟨document, draft, parsed, consumed, keyed⟩ := loadDetached_some loaded
  obtain ⟨master, users, servers⟩ := loadKeys_some keyed
  refine ⟨document, master, parsed, ?_, ?_, ?_⟩
  · obtain ⟨path, rfl⟩ := consumeDocument_some consumed
    change List.Forall₂ _ (List.foldl consumeSection _ document.sections).users _ at users
    rw [draft_users, List.forall₂_map_left_iff] at users
    exact users
  · rw [loadKeys_actions keyed, consumeDocument_actions consumed]
    rfl
  · obtain ⟨path, rfl⟩ := consumeDocument_some consumed
    change List.Forall₂ _
      ((List.foldl consumeSection _ document.sections).servers.map withDefaultPort) _ at servers
    rw [draft_servers, List.map_map, List.forall₂_map_left_iff] at servers
    exact servers

end Loaded

end Siglatch.AppConfigSections
