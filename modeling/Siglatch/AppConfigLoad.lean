import Siglatch.AppBuiltin
import Mathlib.Data.List.Induction

set_option autoImplicit false

namespace Siglatch.AppConfigLoad
open MuxTypes AppConfig DaemonPayload NetIpRange LibStr AppBuiltin

def MAX_USERS : ℕ := 32
def MAX_ACTIONS : ℕ := 32
def MAX_SERVERS : ℕ := 5
def MAX_DEADDROPS : ℕ := 16
def MAX_SERVER_NAME : ℕ := 64
def MAX_DEADDROP_NAME : ℕ := 64
def MAX_BUILTIN_NAME : ℕ := 64
def MAX_OBJECT_NAME : ℕ := 64
def MAX_RUN_AS_NAME : ℕ := 64
def MAX_PATH_LEN : ℕ := 256
def MAX_FILTERS : ℕ := 16
def MAX_FILTER_LEN : ℕ := 32
def MAX_IP_RANGES : ℕ := 16
def PATH_MAX : ℕ := 4096

structure IniEntry where
  key : CString
  value : CString

structure IniSection where
  name : CString
  entries : List IniEntry

structure IniDocument where
  globals : List IniEntry
  sections : List IniSection

/-- What the loader reads: the parsed file, the key files, and the symbols of shared objects. -/
structure Files where
  readIni : CString → Option IniDocument
  privateKey : CString → Option EvpPkey
  rsaPublicKey : CString → Option EvpPkey
  hmacFile : CString → Option Bytes
  supportsDynamic : CString → CString → Bool

structure DraftUser extends User where
  keyFile : CString
  hmacFile : CString

structure DraftServer extends Server where
  privKeyPath : CString

/-- The configuration while it is loaded, with the fields that only the loader uses. -/
structure Draft where
  privKeyPath : CString
  users : List DraftUser
  actions : List Action
  servers : List DraftServer
  deaddrops : List Deaddrop

section Consume

def defaults : Draft := ⟨ascii "/etc/siglatch/server_priv.pem".toList, [], [], [], []⟩

def newUser (name : CString) : DraftUser where
  id := 0
  name := lcpy name 64
  enabled := false
  actions := []
  allowedIps := []
  pubkey := none
  hmacKey := List.replicate 32 0
  keyFile := []
  hmacFile := []

def newAction (name : CString) : Action where
  id := 0
  name := lcpy name MAX_ACTION_NAME
  label := []
  handler := .shell
  builtin := []
  constructor := []
  runAs := []
  enabled := true
  execSplit := true
  enforceWireAuth := false
  allowedIps := []
  object := []
  objectPath := []

def newServer (name : CString) : DraftServer where
  name := lcpy name MAX_SERVER_NAME
  enabled := false
  bindIp := []
  port := 0
  allowedIps := []
  secure := false
  enforceWireDecode := false
  enforceWireAuth := false
  privKey := none
  deaddrops := []
  actions := []
  privKeyPath := []

def newDeaddrop (name : CString) : Deaddrop where
  name := lcpy name MAX_DEADDROP_NAME
  constructor := []
  runAs := []
  startsWith := []
  enabled := true
  requireAscii := false
  execSplit := true

def idOf (value : CString) : UInt32 := UInt32.ofNat (atoi value % 2 ^ 32).toNat

def switch (value : CString) : Bool := (toBool value).getD false

def parseActionHandlerKey (value : CString) : ActionHandler :=
  if sameIgnoringCase value (ascii "shell".toList) then .shell
  else if sameIgnoringCase value (ascii "builtin".toList) then .builtin
  else if sameIgnoringCase value (ascii "static".toList) then .static
  else if sameIgnoringCase value (ascii "dynamic".toList) then .dynamic
  else .invalid

def consumeGlobalEntry (draft : Draft) (entry : IniEntry) : Draft :=
  if entry.key = ascii "priv_key_path".toList then
    { draft with privKeyPath := lcpy entry.value PATH_MAX }
  else draft

def consumeActionEntry (action : Action) (entry : IniEntry) : Action :=
  let key := entry.key
  let val := entry.value
  if key = ascii "constructor".toList then { action with constructor := lcpy val PATH_MAX }
  else if key = ascii "label".toList then { action with label := lcpy val MAX_ACTION_NAME }
  else if key = ascii "name".toList then { action with label := lcpy val MAX_ACTION_NAME }
  else if key = ascii "handler".toList then { action with handler := parseActionHandlerKey val }
  else if key = ascii "builtin".toList then { action with builtin := lcpy val MAX_BUILTIN_NAME }
  else if key = ascii "object".toList then { action with object := lcpy val MAX_OBJECT_NAME }
  else if key = ascii "object_path".toList then { action with objectPath := lcpy val PATH_MAX }
  else if key = ascii "run_as".toList then { action with runAs := lcpy val MAX_RUN_AS_NAME }
  else if key = ascii "id".toList then { action with id := idOf val }
  else if key = ascii "enabled".toList then { action with enabled := switch val }
  else if key = ascii "exec_split".toList then { action with execSplit := switch val }
  else if key = ascii "enforce_wire_auth".toList ∨ key = ascii "reject_wire_auth_error".toList then
    { action with enforceWireAuth := switch val }
  else if key = ascii "allowed_ips".toList then
    { action with
      allowedIps := parseCsvFixed action.allowedIps MAX_IP_RANGES MAX_IP_RANGE_LEN val }
  else action

def consumeUserEntry (user : DraftUser) (entry : IniEntry) : DraftUser :=
  let key := entry.key
  let val := entry.value
  if key = ascii "enabled".toList then { user with enabled := switch val }
  else if key = ascii "key_file".toList then { user with keyFile := lcpy val PATH_MAX }
  else if key = ascii "hmac_file".toList then { user with hmacFile := lcpy val PATH_MAX }
  else if key = ascii "id".toList then { user with id := idOf val }
  else if key = ascii "actions".toList then
    { user with actions := parseCsvFixed user.actions MAX_ACTIONS MAX_ACTION_NAME val }
  else if key = ascii "allowed_ips".toList then
    { user with allowedIps := parseCsvFixed user.allowedIps MAX_IP_RANGES MAX_IP_RANGE_LEN val }
  else user

def consumeServerEntry (server : DraftServer) (entry : IniEntry) : DraftServer :=
  let key := entry.key
  let val := entry.value
  if key = ascii "enabled".toList then { server with enabled := switch val }
  else if key = ascii "priv_key_path".toList then { server with privKeyPath := lcpy val PATH_MAX }
  else if key = ascii "bind_ip".toList then { server with bindIp := lcpy val MAX_IP_RANGE_LEN }
  else if key = ascii "allowed_ips".toList then
    { server with
      allowedIps := parseCsvFixed server.allowedIps MAX_IP_RANGES MAX_IP_RANGE_LEN val }
  else if key = ascii "port".toList then { server with port := atoi val }
  else if key = ascii "secure".toList then { server with secure := switch val }
  else if key = ascii "enforce_wire_decode".toList ∨
      key = ascii "reject_wire_decode_error".toList then
    { server with enforceWireDecode := switch val }
  else if key = ascii "enforce_wire_auth".toList ∨ key = ascii "reject_wire_auth_error".toList then
    { server with enforceWireAuth := switch val }
  else if key = ascii "actions".toList then
    { server with actions := parseCsvFixed server.actions MAX_ACTIONS MAX_ACTION_NAME val }
  else if key = ascii "deaddrops".toList then
    { server with deaddrops := parseCsvFixed server.deaddrops MAX_ACTIONS MAX_ACTION_NAME val }
  else server

def consumeDeaddropEntry (deaddrop : Deaddrop) (entry : IniEntry) : Deaddrop :=
  let key := entry.key
  let val := entry.value
  if key = ascii "constructor".toList then { deaddrop with constructor := lcpy val MAX_PATH_LEN }
  else if key = ascii "run_as".toList then { deaddrop with runAs := lcpy val MAX_RUN_AS_NAME }
  else if key = ascii "starts_with".toList then
    { deaddrop with startsWith := parseCsvFixed deaddrop.startsWith MAX_FILTERS MAX_FILTER_LEN val }
  else if key = ascii "enabled".toList then { deaddrop with enabled := switch val }
  else if key = ascii "require_ascii".toList then { deaddrop with requireAscii := switch val }
  else if key = ascii "exec_split".toList then { deaddrop with execSplit := switch val }
  else deaddrop

def appendItem {α : Type*} (limit : ℕ) (items : List α) (item : α) : List α :=
  if limit ≤ items.length then items else items ++ [item]

def consumeSection (draft : Draft) (found : IniSection) : Draft :=
  if (ascii "user:".toList).isPrefixOf found.name then
    { draft with
      users := appendItem MAX_USERS draft.users
        (found.entries.foldl consumeUserEntry (newUser (found.name.drop 5))) }
  else if (ascii "action:".toList).isPrefixOf found.name then
    { draft with
      actions := appendItem MAX_ACTIONS draft.actions
        (found.entries.foldl consumeActionEntry (newAction (found.name.drop 7))) }
  else if (ascii "server:".toList).isPrefixOf found.name then
    { draft with
      servers := appendItem MAX_SERVERS draft.servers
        (found.entries.foldl consumeServerEntry (newServer (found.name.drop 7))) }
  else if (ascii "deaddrop:".toList).isPrefixOf found.name then
    { draft with
      deaddrops := appendItem MAX_DEADDROPS draft.deaddrops
        (found.entries.foldl consumeDeaddropEntry (newDeaddrop (found.name.drop 9))) }
  else draft

end Consume

section Validate

def validateUniqueServerNames (servers : List DraftServer) : Bool :=
  servers.all (·.name != []) && decide (servers.map (·.name)).Nodup

def supportsStatic (name : CString) : Bool :=
  name == ascii "test_static".toList || name == ascii "sample_blurt_static".toList

def validateActionHandler (files : Files) (action : Action) : Bool :=
  match action.handler with
  | .shell => action.constructor != [] &&
      (action.builtin == [] && action.object == [] && action.objectPath == [])
  | .builtin => action.builtin != [] && action.constructor == [] &&
      (action.object == [] && action.objectPath == []) && action.runAs == [] &&
      supports action.builtin
  | .static => action.object != [] &&
      (action.constructor == [] && action.builtin == [] && action.objectPath == []) &&
      supportsStatic action.object
  | .dynamic => action.object != [] && action.objectPath != [] &&
      (action.constructor == [] && action.builtin == []) &&
      files.supportsDynamic action.objectPath action.object
  | .invalid => false

def validateIpSpecList (specs : List CString) : Bool :=
  specs.all fun spec => spec == [] || (isSingleIpv4 spec || isCidrIpv4 spec)

def validateIpConstraints (draft : Draft) : Bool :=
  draft.users.all (fun user => validateIpSpecList user.allowedIps) &&
  draft.actions.all (fun action => validateIpSpecList action.allowedIps) &&
  draft.servers.all fun server => validateIpSpecList server.allowedIps &&
    (server.bindIp == [] || isSingleIpv4 server.bindIp)

def applyServerRuntimeDefaults (draft : Draft) : Draft :=
  { draft with servers := draft.servers.map fun server =>
      { server with port := if server.port = 0 then 50000 else server.port } }

def consumeDocument (files : Files) (document : IniDocument) : Option Draft :=
  let draft := document.sections.foldl consumeSection
    (document.globals.foldl consumeGlobalEntry defaults)
  if !validateUniqueServerNames draft.servers then none
  else if !draft.actions.all (validateActionHandler files) then none
  else if !validateIpConstraints draft then none
  else some (applyServerRuntimeDefaults draft)

end Validate

section Keys

def isHexDigit (c : UInt8) : Bool := isDigit c || (65 ≤ c && c ≤ 70) || (97 ≤ c && c ≤ 102)

def hexDigit (c : UInt8) : UInt8 :=
  if isDigit c then c - 48 else if c ≤ 70 then c - 55 else c - 87

def hexBytes : Bytes → Bytes
  | high :: low :: rest => (hexDigit high * 16 + hexDigit low) :: hexBytes rest
  | _ => []

/-- A key is 32 bytes as they are, or as 64 hexadecimal digits with blanks in between, and not
all zero. -/
def hmacKeyNormalize (input : Bytes) : Option Bytes :=
  let groomed := input.filter fun c => c ≠ 32 ∧ c ≠ 10 ∧ c ≠ 13 ∧ c ≠ 9
  let key := if input.length = 32 then some input
    else if groomed.length = 64 ∧ groomed.all isHexDigit = true then some (hexBytes groomed)
    else none
  key.filter (·.any (· ≠ 0))

def loadMasterKey (files : Files) (path : CString) : Option (Option EvpPkey) :=
  if path = [] then some none else (files.privateKey path).map some

def loadUserKey (files : Files) (user : DraftUser) : Option DraftUser :=
  if !user.enabled then some user
  else (files.rsaPublicKey user.keyFile).map fun key => { user with pubkey := some key }

def loadServerKey (files : Files) (master : Option EvpPkey) (server : DraftServer) :
    Option DraftServer :=
  if !server.secure then some server
  else if !server.enabled then some server
  else if server.privKeyPath = [] then some { server with privKey := master }
  else (files.privateKey server.privKeyPath).map fun key => { server with privKey := some key }

def loadHmac (files : Files) (user : DraftUser) : Option DraftUser :=
  if !user.enabled then some user
  else do
    let content ← files.hmacFile user.hmacFile
    if 128 ≤ content.length then none
    else
      let key ← hmacKeyNormalize content
      some { user with hmacKey := key }

def loadKeys (files : Files) (draft : Draft) : Option Config := do
  let master ← loadMasterKey files draft.privKeyPath
  let users ← draft.users.mapM (loadUserKey files)
  let servers ← draft.servers.mapM (loadServerKey files master)
  let users ← users.mapM (loadHmac files)
  some ⟨users.map (·.toUser), draft.actions, servers.map (·.toServer),
    draft.deaddrops⟩

def loadDetached (files : Files) (path : CString) : Option Config :=
  if path = [] then none
  else do
    let document ← files.readIni path
    let draft ← consumeDocument files document
    loadKeys files draft

end Keys

section Actions

def isAction (found : IniSection) : Bool := (ascii "action:".toList).isPrefixOf found.name

/-- The number of a section's last `id` entry, or the one that the memory starts with. -/
def statedId (found : IniSection) : UInt32 :=
  match (found.entries.filter (·.key = ascii "id".toList)).getLast? with
  | none => 0
  | some entry => idOf entry.value

theorem appendItem_take {α : Type*} {limit : ℕ} {items : List α} (item : α)
    (room : items.length ≤ limit) : appendItem limit items item = (items ++ [item]).take limit := by
  unfold appendItem
  split
  · rename_i full
    rw [List.take_append_of_le_length full, List.take_of_length_le room]
  · rename_i free
    symm
    apply List.take_of_length_le
    rw [List.length_append, List.length_singleton]
    omega

theorem take_take_append {α : Type*} (limit : ℕ) (xs ys : List α) :
    (xs.take limit ++ ys).take limit = (xs ++ ys).take limit := by
  have rest : limit - min limit xs.length = limit - xs.length := by omega
  rw [@List.take_append _ (xs.take limit), @List.take_append _ xs, List.take_take, Nat.min_self,
    List.length_take, rest]

/-- Sections of one kind fill their array in the order of the file. -/
theorem foldl_appendItem {α : Type*} {limit : ℕ} {items : Draft → List α}
    {belongs : IniSection → Bool} {make : IniSection → α}
    (step : ∀ draft found, items (consumeSection draft found) =
      if belongs found then appendItem limit (items draft) (make found) else items draft)
    (sections : List IniSection) (draft : Draft) (room : (items draft).length ≤ limit) :
    items (sections.foldl consumeSection draft) =
      (items draft ++ (sections.filter belongs).map make).take limit := by
  induction sections generalizing draft with
  | nil =>
    symm
    rw [List.filter_nil, List.map_nil, List.append_nil]
    exact List.take_of_length_le room
  | cons found sections ih =>
    have first := step draft found
    rw [List.foldl_cons, List.filter_cons]
    cases own : belongs found with
    | false =>
      rw [own, if_neg Bool.false_ne_true] at first
      rw [ih (consumeSection draft found) (first ▸ room), first, if_neg Bool.false_ne_true]
    | true =>
      rw [own, if_pos rfl, appendItem_take (make found) room] at first
      rw [ih (consumeSection draft found) (by rw [first]; exact List.length_take_le _ _), first,
        take_take_append, if_pos rfl, List.map_cons, List.append_assoc, List.singleton_append]

def actionOf (found : IniSection) : Action :=
  found.entries.foldl consumeActionEntry (newAction (found.name.drop 7))

theorem kinds_differ {kind other name : CString} (own : kind.isPrefixOf name = true)
    (apart : ¬ (kind <+: other ∨ other <+: kind)) : other.isPrefixOf name = false := by
  by_contra second
  rw [Bool.not_eq_false] at second
  exact apart (List.prefix_or_prefix_of_prefix (List.isPrefixOf_iff_prefix.mp own)
    (List.isPrefixOf_iff_prefix.mp second))

theorem consumeSection_actions (draft : Draft) (found : IniSection) :
    (consumeSection draft found).actions =
      if isAction found then appendItem MAX_ACTIONS draft.actions (actionOf found)
      else draft.actions := by
  unfold consumeSection isAction
  split
  · rename_i user
    rw [kinds_differ user (by decide +kernel)]
    rfl
  · split
    · rfl
    · split
      · rfl
      · split
        · rfl
        · rfl

theorem field_ite {α β : Type*} {c : Prop} [Decidable c] {first second : α} {value : β}
    (field : α → β) (yes : field first = value) (no : field second = value) :
    field (if c then first else second) = value := by
  split
  · exact yes
  · exact no

theorem consumeActionEntry_id (action : Action) (entry : IniEntry) :
    (consumeActionEntry action entry).id =
      if entry.key = ascii "id".toList then idOf entry.value else action.id := by
  unfold consumeActionEntry
  dsimp only
  by_cases number : entry.key = ascii "id".toList
  · rw [if_pos number, number]
    rfl
  · rw [if_neg number, if_neg number]
    repeat apply field_ite (fun item : Action => item.id) rfl
    rfl

def stated {β : Type*} (key : CString) (read : CString → β) (before : β) (found : IniSection) : β :=
  match (found.entries.filter (·.key = key)).getLast? with
  | none => before
  | some entry => read entry.value

theorem foldl_stated {α β : Type*} {consume : α → IniEntry → α} {field : α → β} {key : CString}
    {read : CString → β} (step : ∀ item entry, field (consume item entry) =
      if entry.key = key then read entry.value else field item) (found : IniSection) (item : α) :
    field (found.entries.foldl consume item) = stated key read (field item) found := by
  unfold stated
  induction found.entries using List.reverseRecOn with
  | nil => rfl
  | append_singleton entries entry ih =>
    rw [List.foldl_append, List.foldl_cons, List.foldl_nil, step, ih, List.filter_append]
    by_cases own : entry.key = key
    · have last : [entry].filter (·.key = key) = [entry] :=
        List.filter_eq_self.mpr fun other member =>
          decide_eq_true (List.mem_singleton.mp member ▸ own)
      rw [if_pos own, last, List.getLast?_concat]
    · have other : [entry].filter (·.key = key) = [] :=
        List.filter_eq_nil_iff.mpr fun other member => by
          rw [List.mem_singleton.mp member, decide_eq_true_iff]
          exact own
      rw [if_neg own, other, List.append_nil]

theorem actionOf_id (found : IniSection) : (actionOf found).id = statedId found :=
  @foldl_stated _ _ _ (·.id) _ _ consumeActionEntry_id found (newAction (found.name.drop 7))

theorem loadDetached_some {files : Files} {path : CString} {cfg : Config}
    (loaded : loadDetached files path = some cfg) : ∃ document draft,
      files.readIni path = some document ∧ consumeDocument files document = some draft ∧
      loadKeys files draft = some cfg := by
  unfold loadDetached at loaded
  split at loaded
  · cases loaded
  · obtain ⟨document, parsed, loaded⟩ := Option.bind_eq_some_iff.mp loaded
    obtain ⟨draft, consumed, keyed⟩ := Option.bind_eq_some_iff.mp loaded
    exact ⟨document, draft, parsed, consumed, keyed⟩

theorem loadKeys_actions {files : Files} {draft : Draft} {cfg : Config}
    (loaded : loadKeys files draft = some cfg) :
    cfg.actions = draft.actions := by
  unfold loadKeys at loaded
  simp only [Option.bind_eq_bind, Option.bind_eq_some_iff, Option.some.injEq] at loaded
  obtain ⟨-, -, -, -, -, -, -, -, rfl⟩ := loaded
  rfl

theorem globals_path (globals : List IniEntry) :
    ∃ path, globals.foldl consumeGlobalEntry defaults = { defaults with privKeyPath := path } := by
  induction globals using List.reverseRecOn with
  | nil => exact ⟨_, rfl⟩
  | append_singleton entries entry ih =>
    obtain ⟨path, earlier⟩ := ih
    rw [List.foldl_append, List.foldl_cons, List.foldl_nil, earlier]
    unfold consumeGlobalEntry
    split
    · exact ⟨_, rfl⟩
    · exact ⟨_, rfl⟩

theorem consumeDocument_some {files : Files} {document : IniDocument} {draft : Draft}
    (consumed : consumeDocument files document = some draft) : ∃ path,
      draft = applyServerRuntimeDefaults
        (document.sections.foldl consumeSection { defaults with privKeyPath := path }) := by
  obtain ⟨path, globals⟩ := globals_path document.globals
  refine ⟨path, ?_⟩
  unfold consumeDocument at consumed
  dsimp only at consumed
  rw [globals] at consumed
  split at consumed
  · cases consumed
  split at consumed
  · cases consumed
  split at consumed
  · cases consumed
  · exact (Option.some.inj consumed).symm

theorem consumeDocument_actions {files : Files} {document : IniDocument} {draft : Draft}
    (consumed : consumeDocument files document = some draft) :
    draft.actions = ((document.sections.filter isAction).take MAX_ACTIONS).map actionOf := by
  obtain ⟨path, rfl⟩ := consumeDocument_some consumed
  rw [List.map_take]
  exact foldl_appendItem consumeSection_actions document.sections _ (Nat.zero_le _)

theorem loaded_ids {files : Files} {path : CString} {cfg : Config}
    (loaded : loadDetached files path = some cfg) : ∃ document,
      files.readIni path = some document ∧ cfg.actions.map (·.id) =
        ((document.sections.filter isAction).take MAX_ACTIONS).map statedId := by
  obtain ⟨document, draft, parsed, consumed, keyed⟩ := loadDetached_some loaded
  refine ⟨document, parsed, ?_⟩
  rw [loadKeys_actions keyed, consumeDocument_actions consumed, List.map_map]
  apply List.map_congr_left
  intro found _
  exact actionOf_id found

theorem loaded_actionById {files : Files} {path : CString} {cfg : Config}
    (loaded : loadDetached files path = some cfg) (actionId : UInt32) : ∃ document,
      files.readIni path = some document ∧ ((actionById (some cfg) actionId).isSome = true ↔
        ∃ found ∈ (document.sections.filter isAction).take MAX_ACTIONS,
          statedId found = actionId) := by
  obtain ⟨document, parsed, ids⟩ := loaded_ids loaded
  refine ⟨document, parsed, ?_⟩
  change (cfg.actions.find? fun a => a.id == actionId).isSome = true ↔ _
  rw [← List.mem_map, ← ids, List.mem_map, List.find?_isSome]
  simp only [beq_iff_eq]

end Actions

end Siglatch.AppConfigLoad
