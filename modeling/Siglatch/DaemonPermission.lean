import Siglatch.AppConfigSections

set_option autoImplicit false

namespace Siglatch.DaemonPermission
open MuxTypes AppConfig KnockDigest DaemonTypes RequestPolicy DaemonAuth DaemonPayload LibStr
  AppConfigLoad AppConfigSections RelatedLists

/-- A daemon that runs with a loaded file and listens as the server of one of its sections. -/
structure Serves (files : Files) (path : CString) (document : IniDocument) (serving : IniSection)
    (cfg : Config) (server : Server) (runtime : Runtime) : Prop where
  parsed : files.readIni path = some document
  loaded : loadDetached files path = some cfg
  configured : runtime.config = some cfg
  listening : runtime.listener.server = some server
  own_section : (serving, server) ∈ (kept isServer MAX_SERVERS document).zip cfg.servers

/-- The user of an enabled section asks for the action of another one by their numbers, and
signs with its own key. -/
structure Asks (hash : Hash) (files : Files) (asking wanted : IniSection) (user : User)
    (job : Job) : Prop where
  structured : job.wireVersion ≠ 0
  user_enabled : statedEnabled false asking = true
  action_enabled : statedEnabled true wanted = true
  own_keys : ownUser files asking = some user
  user_named : job.request.userId.toUInt32 = statedId asking
  action_named : job.request.actionId.toUInt32 = statedId wanted
  signed : SignedBy hash user.hmacKey job

/-- The items of a section's `actions` that its record keeps, as they are written. -/
def listedActions (found : IniSection) : List CString :=
  (items (ascii "actions".toList) found).take MAX_ACTIONS

/-- No other section states the same number, and no listed item shares all of the name that its
slot holds with the action but is another. -/
structure Unmistaken (document : IniDocument) (serving asking wanted : IniSection) : Prop where
  user_id : ∀ other ∈ kept isUser MAX_USERS document, statedEnabled false other = true →
    statedId other = statedId asking → other = asking
  action_id : ∀ other ∈ kept isAction MAX_ACTIONS document,
    statedId other = statedId wanted → other = wanted
  user_items : ∀ item ∈ listedActions asking,
    lcpy item MAX_ACTION_NAME = lcpy (actionName wanted) MAX_ACTION_NAME → item = actionName wanted
  server_items : ∀ item ∈ listedActions serving,
    lcpy item MAX_ACTION_NAME = lcpy (actionName wanted) MAX_ACTION_NAME → item = actionName wanted

/-- What the file permits, as far as its sections, items and ranges are kept. -/
structure Permits (document : IniDocument) (serving asking wanted : IniSection)
    (ip : CString) : Prop where
  user_kept : asking ∈ kept isUser MAX_USERS document
  action_kept : wanted ∈ kept isAction MAX_ACTIONS document
  user_lists : actionName wanted ∈ listedActions asking
  server_lists : actionName wanted ∈ listedActions serving
  server_admits : Admits (keptRanges serving) ip
  user_admits : Admits (keptRanges asking) ip
  action_admits : Admits (keptRanges wanted) ip

theorem mem_keptActions {found wanted : IniSection}
    (unmistaken : ∀ item ∈ listedActions found,
      lcpy item MAX_ACTION_NAME = lcpy (actionName wanted) MAX_ACTION_NAME →
        item = actionName wanted) :
    (actionOf wanted).name ∈ keptActions found ↔ actionName wanted ∈ listedActions found := by
  have name : (actionOf wanted).name = lcpy (actionName wanted) MAX_ACTION_NAME :=
    actionOf_name wanted
  change _ ∈ (listedActions found).map (lcpy · MAX_ACTION_NAME) ↔ _
  rw [name, List.mem_map]
  constructor
  · rintro ⟨item, member, same⟩
    exact unmistaken item member same ▸ member
  · intro member
    exact ⟨actionName wanted, member, rfl⟩

section Loaded

variable {hash : Hash} {files : Files} {path : CString} {document : IniDocument}
  {serving asking wanted : IniSection} {cfg : Config} {server : Server} {runtime : Runtime}
  {user : User} {job : Job}

theorem Serves.sections (serves : Serves files path document serving cfg server runtime) :
    ∃ master, List.Forall₂ (fun found user => ownUser files found = some user)
      (kept isUser MAX_USERS document) cfg.users ∧
    cfg.actions = (kept isAction MAX_ACTIONS document).map actionOf ∧
    List.Forall₂ (fun found server => ownServer files master found = some server)
      (kept isServer MAX_SERVERS document) cfg.servers := by
  obtain ⟨other, master, parsed, holds⟩ := loaded_sections serves.loaded
  obtain rfl := Option.some.inj (serves.parsed.symm.trans parsed)
  exact ⟨master, holds⟩

theorem Serves.server_fields
    (serves : Serves files path document serving cfg server runtime) :
    server.actions = keptActions serving ∧ server.allowedIps = keptRanges serving := by
  obtain ⟨master, -, -, servers⟩ := serves.sections
  exact ownServer_fields (List.forall₂_zip servers serves.own_section)

theorem Serves.userById_iff (serves : Serves files path document serving cfg server runtime)
    (asks : Asks hash files asking wanted user job)
    (unmistaken : Unmistaken document serving asking wanted) (reached : User) :
    userById runtime.config job.request.userId.toUInt32 = some reached ↔
      reached = user ∧ asking ∈ kept isUser MAX_USERS document := by
  obtain ⟨_, users, -, -⟩ := serves.sections
  obtain ⟨number, enabled, -, -⟩ := ownUser_fields asks.own_keys
  rw [serves.configured, asks.user_named]
  apply find?_made users asks.own_keys
  · rw [number, enabled, asks.user_enabled, beq_self_eq_true, Bool.and_self]
  · intro found member own made fits
    obtain ⟨sameNumber, sameEnabled, -, -⟩ := ownUser_fields made
    rw [Bool.and_eq_true, beq_iff_eq, sameNumber, sameEnabled] at fits
    exact unmistaken.user_id found member fits.1 fits.2

theorem Serves.actionById_iff (serves : Serves files path document serving cfg server runtime)
    (asks : Asks hash files asking wanted user job)
    (unmistaken : Unmistaken document serving asking wanted) (reached : Action) :
    actionById runtime.config job.request.actionId.toUInt32 = some reached ↔
      reached = actionOf wanted ∧ wanted ∈ kept isAction MAX_ACTIONS document := by
  obtain ⟨_, -, actions, -⟩ := serves.sections
  have made : List.Forall₂ (fun found action => some (actionOf found) = some action)
      (kept isAction MAX_ACTIONS document) cfg.actions := by
    rw [actions, List.forall₂_map_right_iff]
    exact List.forall₂_same.mpr fun found _ => rfl
  rw [serves.configured, asks.action_named]
  apply @find?_made _ _ (fun found => some (actionOf found)) _ _ made _ _ _ rfl
  · rw [beq_iff_eq]
    exact actionOf_id wanted
  · intro found member own found_own fits
    obtain rfl := Option.some.inj found_own
    rw [beq_iff_eq] at fits
    exact unmistaken.action_id found member ((actionOf_id found).symm.trans fits)

/-- The request of a user runs the action of that name exactly if the file, as far as it is kept,
permits it, and it runs nothing else. -/
theorem dispatched_iff_permits (hash : Hash) (handlers : Handlers)
    (serves : Serves files path document serving cfg server runtime)
    (asks : Asks hash files asking wanted user job)
    (unmistaken : Unmistaken document serving asking wanted) (reached : User × Action) :
    (consume hash handlers runtime job).dispatched = some reached ↔
      reached = (user, actionOf wanted) ∧ Permits document serving asking wanted job.ip := by
  have ⟨serverActions, serverRanges⟩ := serves.server_fields
  have ⟨_, _, userActions, userRanges⟩ := ownUser_fields asks.own_keys
  have actionRanges := actionOf_allowedIps wanted
  obtain ⟨someUser, someAction⟩ := reached
  rw [consume_dispatched_iff hash handlers runtime asks.structured, Prod.mk.injEq]
  constructor
  · rintro ⟨listening, gate⟩
    obtain rfl := Option.some.inj (serves.listening.symm.trans gate.listening)
    obtain ⟨rfl, userKept⟩ := (serves.userById_iff asks unmistaken _).mp gate.user_known
    obtain ⟨rfl, actionKept⟩ := (serves.actionById_iff asks unmistaken _).mp gate.action_known
    refine ⟨⟨rfl, rfl⟩, userKept, actionKept, ?_, ?_, ?_, ?_, ?_⟩
    · exact (mem_keptActions unmistaken.user_items).mp (userActions ▸ gate.user_may)
    · exact (mem_keptActions unmistaken.server_items).mp (serverActions ▸ gate.server_offers)
    · exact serverRanges ▸ gate.server_admits
    · exact userRanges ▸ gate.user_admits
    · exact actionRanges ▸ gate.action_admits
  · rintro ⟨⟨rfl, rfl⟩, permits⟩
    refine ⟨server, serves.listening, ?_, ?_, asks.signed, ?_, ?_, ?_, ?_, ?_, ?_⟩
    · exact (serves.userById_iff asks unmistaken _).mpr ⟨rfl, permits.user_kept⟩
    · exact (serves.actionById_iff asks unmistaken _).mpr ⟨rfl, permits.action_kept⟩
    · exact serverActions ▸ (mem_keptActions unmistaken.server_items).mpr permits.server_lists
    · exact userActions ▸ (mem_keptActions unmistaken.user_items).mpr permits.user_lists
    · exact (actionOf_enabled wanted).trans asks.action_enabled
    · exact serverRanges ▸ permits.server_admits
    · exact userRanges ▸ permits.user_admits
    · exact actionRanges ▸ permits.action_admits

end Loaded

section House

deriving instance DecidableEq for IniEntry
deriving instance DecidableEq for IniSection

def guestSection : IniSection where
  name := ascii "user:guest".toList
  entries := []

def aliceSection : IniSection where
  name := ascii "user:alice".toList
  entries := [⟨ascii "enabled".toList, ascii "yes".toList⟩, ⟨ascii "id".toList, ascii "3".toList⟩,
    ⟨ascii "actions".toList, ascii "open".toList⟩]

def doorSection : IniSection where
  name := ascii "action:open".toList
  entries := [⟨ascii "id".toList, ascii "7".toList⟩,
    ⟨ascii "constructor".toList, ascii "/open".toList⟩]

def frontSection : IniSection where
  name := ascii "server:front".toList
  entries := [⟨ascii "enabled".toList, ascii "yes".toList⟩,
    ⟨ascii "actions".toList, ascii "open".toList⟩]

def houseDocument (guests : ℕ) : IniDocument where
  globals := []
  sections := List.replicate guests guestSection ++ [aliceSection, doorSection, frontSection]

def houseFiles (guests : ℕ) : Files where
  readIni _ := some (houseDocument guests)
  privateKey _ := some 1
  rsaPublicKey _ := some 2
  hmacFile _ := some alice.hmacKey
  supportsDynamic _ _ := false

def housePath : CString := ascii "house.ini".toList

def houseConfig (guests : ℕ) : Config :=
  (loadDetached (houseFiles guests) housePath).getD ⟨[], [], [], []⟩

def houseServer (guests : ℕ) : Server := (houseConfig guests).servers.headD frontServer

def houseUser (guests : ℕ) : User := (ownUser (houseFiles guests) aliceSection).getD alice

def houseRuntime (guests : ℕ) : Runtime :=
  { frontRuntime with
    config := some (houseConfig guests), listener := ⟨3, 50000, [], some (houseServer guests)⟩ }

theorem house_serves {guests : ℕ} (number : guests ∈ [0, MAX_USERS]) :
    Serves (houseFiles guests) housePath (houseDocument guests) frontSection (houseConfig guests)
      (houseServer guests) (houseRuntime guests) := by
  refine ⟨rfl, ?_, rfl, rfl, ?_⟩
  · revert guests
    decide +kernel
  · revert guests
    decide +kernel

theorem house_asks (guests : ℕ) :
    Asks plainHash (houseFiles guests) aliceSection doorSection (houseUser guests) doorRequest := by
  have keys : ownUser (houseFiles guests) aliceSection = ownUser (houseFiles 0) aliceSection := rfl
  have user : houseUser guests = houseUser 0 := rfl
  refine ⟨by decide, by decide +kernel, by decide +kernel, ?_, by decide +kernel, by decide +kernel,
    (signedMessage doorRequest).getD [], by decide +kernel, ?_⟩
  · rw [keys, user]
    decide +kernel
  · rw [user]
    decide +kernel

theorem house_admits : Admits [] doorRequest.ip := ⟨by decide, .inl rfl⟩

theorem house_permits : Permits (houseDocument 0) frontSection aliceSection doorSection
    doorRequest.ip := by
  refine ⟨by decide +kernel, by decide +kernel, by decide +kernel, by decide +kernel, ?_, ?_, ?_⟩
  · exact house_admits
  · exact house_admits
  · exact house_admits

theorem dispatched_iff_permits_house :
    (consume plainHash silentHandlers (houseRuntime 0) doorRequest).dispatched =
      some (houseUser 0, actionOf doorSection) :=
  (dispatched_iff_permits plainHash silentHandlers (house_serves (by decide)) (house_asks 0)
    ⟨by decide +kernel, by decide +kernel, by decide +kernel, by decide +kernel⟩ _).mpr
    ⟨rfl, house_permits⟩

/-- A user section behind a full array is ignored, so the file's permission is not the daemon's. -/
theorem house_full : ¬ ∀ (hash : Hash) (handlers : Handlers) (files : Files) (path : CString)
    (document : IniDocument) (serving asking wanted : IniSection) (cfg : Config) (server : Server)
    (runtime : Runtime) (user : User) (job : Job),
    Serves files path document serving cfg server runtime →
    Asks hash files asking wanted user job →
    asking ∈ document.sections.filter isUser → wanted ∈ document.sections.filter isAction →
    Admits (items (ascii "allowed_ips".toList) serving) job.ip →
    Admits (items (ascii "allowed_ips".toList) asking) job.ip →
    Admits (items (ascii "allowed_ips".toList) wanted) job.ip →
    ((consume hash handlers runtime job).dispatched = some (user, actionOf wanted) ↔
      actionName wanted ∈ items (ascii "actions".toList) asking ∧
      actionName wanted ∈ items (ascii "actions".toList) serving) := by
  intro same
  have permitted := (same plainHash silentHandlers _ _ _ _ _ _ _ _ _ _ _
    (house_serves (by decide : MAX_USERS ∈ [0, MAX_USERS])) (house_asks MAX_USERS)
    (by decide +kernel) (by decide +kernel) house_admits house_admits house_admits).mpr
    (by decide +kernel)
  have ignored :
      (consume plainHash silentHandlers (houseRuntime MAX_USERS) doorRequest).dispatched = none := by
    decide +kernel
  rw [ignored] at permitted
  contradiction

end House

end Siglatch.DaemonPermission
