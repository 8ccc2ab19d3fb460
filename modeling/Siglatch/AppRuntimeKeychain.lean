import Siglatch.AppRuntime
import Siglatch.KnockKeychain

set_option autoImplicit false

namespace Siglatch.AppRuntimeKeychain
open MuxTypes AppConfig
open KnockContext (CodecContext ServerKey)
open KnockKeychain (KeyEntry Context Resources WellFormed visible viewed view stored)
open AppRuntime (Grants)

/-- The codec context of the workspace, with its keychain as it is in memory. -/
structure CodecMemory where
  serverKey : Option ServerKey
  serverSecure : Bool
  chain : Context

def seen (memory : CodecMemory) : CodecContext :=
  ⟨memory.serverKey, memory.serverSecure, (visible memory.chain).map view⟩

def keyEntry (user : User) : KeyEntry :=
  ⟨user.id, some user.name, user.pubkey, none, some user.hmacKey, user.hmacKey.length, 0⟩

def setServerKey (resources : Resources) (memory : CodecMemory) (key : ServerKey) :
    Option CodecMemory :=
  if key.name = [] then none
  else if !(resources.nameCopy && (key.privateKey.isNone || resources.privateRef)) then none
  else some { memory with serverKey := some key }

section rebuild

variable (keyResources : Resources) (resources : ℕ → Resources)

def addUsers : List User → CodecMemory → Bool × CodecMemory
  | [], memory => (true, memory)
  | user :: users, memory =>
    if !user.enabled then addUsers users memory
    else
      match KnockKeychain.addKeychain true memory.chain (resources memory.chain.keychainLen)
        (keyEntry user) with
      | (false, chain) => (false, { memory with chain := chain })
      | (true, chain) => addUsers users { memory with chain := chain }

def syncCodecContext (cfg : Option Config) (server : Option Server) (memory : CodecMemory) :
    Bool × CodecMemory :=
  match cfg, server with
  | some cfg, some server =>
    let memory := { memory with serverKey := none, serverSecure := server.secure }
    match KnockKeychain.clearKeychain true memory.chain.keychainLen memory.chain with
    | (false, chain) => (false, { memory with chain := chain })
    | (true, chain) =>
      let memory := { memory with chain := chain }
      if server.secure && server.privKey.isSome then
        match setServerKey keyResources memory ⟨server.name, server.privKey⟩ with
        | none => (false, memory)
        | some memory => addUsers resources cfg.users memory
      else addUsers resources cfg.users memory
  | _, _ => (false, memory)

end rebuild

section entries

variable {memory : CodecMemory} {granted granted' : ℕ → Bool} {resources : ℕ → Resources}

theorem view_stored (user : User) : view (stored (keyEntry user)) = AppRuntime.keyEntry user := by
  unfold view stored keyEntry AppRuntime.keyEntry
  cases user.hmacKey with
  | nil => rfl
  | cons byte rest => simp

theorem visible_length {chain : Context} (good : WellFormed chain) :
    (visible chain).length = chain.keychainLen := by
  rw [visible, List.length_take]
  exact Nat.min_eq_left good.room

theorem seen_length (good : WellFormed memory.chain) :
    (seen memory).keychain.length = memory.chain.keychainLen := by
  change ((visible memory.chain).map view).length = _
  rw [List.length_map, visible_length good]

theorem addKeychain_longer {given : Bool} {context next : CodecContext}
    {entry : KnockContext.KeyEntry}
    (added : KnockContext.addKeychain given context entry = some next) :
    next.keychain.length = context.keychain.length + 1 := by
  unfold KnockContext.addKeychain at added
  split at added
  · cases added
  split at added
  · cases added
  split at added
  · cases added
  · cases added
    exact List.length_append

theorem addUsers_congr (users : List User) (context : CodecContext)
    (same : ∀ place, context.keychain.length ≤ place → granted place = granted' place) :
    AppRuntime.addUsers granted users context = AppRuntime.addUsers granted' users context := by
  induction users generalizing context with
  | nil => rfl
  | cons user users ih =>
    unfold AppRuntime.addUsers
    rw [same _ (Nat.le_refl _), ih context same]
    cases added : KnockContext.addKeychain (granted' context.keychain.length) context
        (AppRuntime.keyEntry user) with
    | none => rfl
    | some next =>
      dsimp only
      rw [ih next fun place past => same place ?_]
      have longer := addKeychain_longer added
      omega

theorem addUsers_cons {user : User} {users : List User} (good : WellFormed memory.chain)
    (enabled : user.enabled = true)
    (given : granted memory.chain.keychainLen = KnockKeychain.granted
      (resources memory.chain.keychainLen) memory.chain (keyEntry user))
    (rest : ∀ chain, KnockKeychain.addKeychain true memory.chain
        (resources memory.chain.keychainLen) (keyEntry user) = (true, chain) →
      AppRuntime.addUsers granted users (seen { memory with chain := chain }) =
        ((addUsers resources users { memory with chain := chain }).1,
          seen (addUsers resources users { memory with chain := chain }).2)) :
    AppRuntime.addUsers granted (user :: users) (seen memory) =
      ((addUsers resources (user :: users) memory).1,
        seen (addUsers resources (user :: users) memory).2) := by
  have step : KnockContext.addKeychain (granted (seen memory).keychain.length) (seen memory)
        (AppRuntime.keyEntry user) =
      if (KnockKeychain.addKeychain true memory.chain (resources memory.chain.keychainLen)
          (keyEntry user)).1 then
        some (seen { memory with chain := (KnockKeychain.addKeychain true memory.chain
          (resources memory.chain.keychainLen) (keyEntry user)).2 })
      else none := by
    rw [seen_length good, given, ← view_stored]
    exact KnockKeychain.addKeychain_viewed (seen memory) good _ (keyEntry user)
  have kept := @KnockKeychain.addKeychain_refused true memory.chain (seen memory) good
    (resources memory.chain.keychainLen) (keyEntry user)
  unfold AppRuntime.addUsers addUsers
  rw [enabled, Bool.not_true, if_neg Bool.false_ne_true, if_neg Bool.false_ne_true, step]
  cases added : KnockKeychain.addKeychain true memory.chain (resources memory.chain.keychainLen)
      (keyEntry user) with
  | mk result chain =>
    rw [added] at kept
    cases result with
    | false =>
      rw [if_neg Bool.false_ne_true]
      exact congrArg (Prod.mk false) (kept rfl).symm
    | true => exact rest chain added

theorem addUsers_refines (users : List User) (good : WellFormed memory.chain) :
    ∃ granted, AppRuntime.addUsers granted users (seen memory) =
        ((addUsers resources users memory).1, seen (addUsers resources users memory).2) := by
  induction users generalizing memory with
  | nil => exact ⟨fun _ => true, rfl⟩
  | cons user users ih =>
    cases enabled : user.enabled with
    | false =>
      obtain ⟨granted, run⟩ := ih good
      refine ⟨granted, ?_⟩
      unfold AppRuntime.addUsers addUsers
      rw [enabled]
      exact run
    | true =>
      cases added : KnockKeychain.addKeychain true memory.chain
        (resources memory.chain.keychainLen) (keyEntry user) with
      | mk result chain =>
      have goodNext := KnockKeychain.addKeychain_wellFormed good added
      obtain ⟨later, run⟩ := @ih { memory with chain := chain } goodNext
      -- the first place takes the answer of this addition, the others those of the rest
      refine ⟨Function.update later memory.chain.keychainLen (KnockKeychain.granted
        (resources memory.chain.keychainLen) memory.chain (keyEntry user)),
        addUsers_cons good enabled (Function.update_self _ _ _) fun after done => ?_⟩
      obtain ⟨rfl, rfl⟩ := Prod.mk.inj (added.symm.trans done)
      rw [← run]
      apply addUsers_congr
      intro place past
      rw [seen_length goodNext] at past
      refine Function.update_of_ne ?_ _ _
      rcases KnockKeychain.addKeychain_cases good added with ⟨failed, -⟩ | ⟨-, -, -, grown, -, -⟩
      · cases failed
      have longer := congrArg List.length grown
      rw [visible_length goodNext, List.length_append, visible_length good] at longer
      change chain.keychainLen ≤ place at past
      simp only [List.length_singleton] at longer
      omega

theorem addUsers_wellFormed (users : List User) (good : WellFormed memory.chain) :
    WellFormed (addUsers resources users memory).2.chain := by
  induction users generalizing memory with
  | nil => exact good
  | cons user users ih =>
    unfold addUsers
    split
    · exact ih good
    split
    · rename_i chain added
      exact KnockKeychain.addKeychain_wellFormed good added
    · rename_i chain added
      exact ih (KnockKeychain.addKeychain_wellFormed good added)

def refusing (granted : ℕ → Bool) (place : ℕ) : Resources :=
  ⟨true, granted place, true, true, true⟩

theorem addUsers_realises (granted : ℕ → Bool) (users : List User)
    (good : WellFormed memory.chain) :
    AppRuntime.addUsers granted users (seen memory) =
      ((addUsers (refusing granted) users memory).1,
        seen (addUsers (refusing granted) users memory).2) := by
  induction users generalizing memory with
  | nil => rfl
  | cons user users ih =>
    cases enabled : user.enabled with
    | false =>
      unfold AppRuntime.addUsers addUsers
      rw [enabled]
      exact ih good
    | true =>
      have given := @KnockKeychain.granted_given memory.chain
        (refusing granted memory.chain.keychainLen) (keyEntry user) user.name rfl rfl rfl rfl rfl
        fun _ => rfl
      exact addUsers_cons good enabled given.symm fun chain done =>
        ih (KnockKeychain.addKeychain_wellFormed good done)

end entries

section sync

variable {memory : CodecMemory} {keyResources : Resources} {resources : ℕ → Resources}
  (cfg : Option Config) (server : Option Server)

theorem clearKeychain_viewed (codec : CodecContext) (fuel : ℕ) {chain : Context}
    (good : WellFormed chain) : AppRuntime.clearKeychain fuel (viewed codec chain) =
      ((KnockKeychain.clearKeychain true fuel chain).1,
        viewed codec (KnockKeychain.clearKeychain true fuel chain).2) := by
  induction fuel generalizing chain with
  | zero =>
    have length := visible_length good
    refine Prod.ext ?_ rfl
    rw [Bool.eq_iff_iff]
    change List.isEmpty ((visible chain).map view) = true ↔ decide (chain.keychainLen = 0) = true
    rw [List.isEmpty_iff, List.map_eq_nil_iff, decide_eq_true_eq, ← length, List.length_eq_zero_iff]
  | succ fuel ih =>
    have length := visible_length good
    unfold AppRuntime.clearKeychain KnockKeychain.clearKeychain
    cases shown : visible chain with
    | nil =>
      have empty : chain.keychainLen = 0 := by
        rw [← length, shown]
        rfl
      have entries : (viewed codec chain).keychain = [] := by
        change (visible chain).map view = _
        rw [shown]
        rfl
      rw [if_pos empty, entries]
    | cons first rest =>
      have filled : chain.keychainLen ≠ 0 := by
        rw [← length, shown]
        exact Nat.succ_ne_zero _
      have slot : chain.keychain.getD 0 KnockKeychain.zeroEntry = first := by
        have front : (visible chain)[0]? = some first := by
          rw [shown]
          rfl
        rw [visible, List.getElem?_take_of_lt (Nat.pos_of_ne_zero filled)] at front
        rw [List.getD_eq_getElem?_getD, front, Option.getD_some]
      obtain ⟨name, named, -⟩ := good.named first (by rw [shown]; exact List.mem_cons_self)
      have step := KnockKeychain.removeKeychain_viewed codec good name
      have entries : (viewed codec chain).keychain = view first :: rest.map view := by
        change (visible chain).map view = _
        rw [shown]
        rfl
      have called : (view first).name = name := by
        rw [view, named]
        rfl
      rw [if_neg filled, slot, named, entries]
      dsimp only
      rw [called, step]
      cases removed : KnockKeychain.removeKeychain true chain (some name) with
      | mk result after =>
        cases result with
        | false =>
          rcases KnockKeychain.removeKeychain_cases good removed with ⟨-, rfl⟩ | ⟨done, -⟩
          · rfl
          · cases done
        | true => exact ih (KnockKeychain.removeKeychain_wellFormed good removed)

theorem clearKeychain_seen (good : WellFormed memory.chain) (secure : Bool) :
    ∃ chain, KnockKeychain.clearKeychain true memory.chain.keychainLen memory.chain =
        (true, chain) ∧ WellFormed chain ∧
      AppRuntime.clearKeychain (KnockContext.clearServerKey (seen memory)).keychain.length
          { KnockContext.clearServerKey (seen memory) with serverSecure := secure } =
        (true, seen ⟨none, secure, chain⟩) := by
  obtain ⟨chain, emptied, goodChain, -⟩ :=
    KnockKeychain.clearKeychain_empties memory.chain.keychainLen memory.chain good (Nat.le_refl _)
  refine ⟨chain, emptied, goodChain, ?_⟩
  have cleared := clearKeychain_viewed ⟨none, secure, []⟩ memory.chain.keychainLen good
  rw [emptied] at cleared
  change AppRuntime.clearKeychain (seen memory).keychain.length _ = _
  rw [seen_length good]
  exact cleared

theorem syncCodecContext_wellFormed (good : WellFormed memory.chain) :
    WellFormed (syncCodecContext keyResources resources cfg server memory).2.chain := by
  obtain ⟨chain, emptied, goodChain, -⟩ := clearKeychain_seen good false
  cases cfg with
  | none => exact good
  | some cfg =>
    cases server with
    | none => exact good
    | some server =>
      unfold syncCodecContext
      dsimp only
      rw [emptied]
      dsimp only
      split
      · split
        · exact goodChain
        · rename_i keyed set
          unfold setServerKey at set
          split at set
          · cases set
          split at set
          · cases set
          · cases set
            exact addUsers_wellFormed cfg.users goodChain
      · exact addUsers_wellFormed cfg.users goodChain

theorem syncCodecContext_refines (good : WellFormed memory.chain) :
    ∃ grants, AppRuntime.syncCodecContext grants cfg server (seen memory) =
      ((syncCodecContext keyResources resources cfg server memory).1,
        seen (syncCodecContext keyResources resources cfg server memory).2) := by
  cases cfg with
  | none => exact ⟨.all, rfl⟩
  | some cfg =>
  cases server with
  | none => exact ⟨.all, rfl⟩
  | some server =>
  obtain ⟨chain, emptied, goodChain, cleared⟩ := clearKeychain_seen good server.secure
  unfold AppRuntime.syncCodecContext syncCodecContext
  dsimp only
  rw [cleared, emptied]
  dsimp only
  split
  · unfold setServerKey KnockContext.setServerKey
    dsimp only
    split
    · exact ⟨.all, rfl⟩
    cases copied : keyResources.nameCopy && (server.privKey.isNone || keyResources.privateRef) with
    | false => exact ⟨⟨false, fun _ => true⟩, rfl⟩
    | true =>
      obtain ⟨granted, run⟩ := @addUsers_refines
        ⟨some ⟨server.name, server.privKey⟩, server.secure, chain⟩ resources cfg.users goodChain
      exact ⟨⟨true, granted⟩, run⟩
  · obtain ⟨granted, run⟩ := @addUsers_refines ⟨none, server.secure, chain⟩ resources cfg.users
      goodChain
    exact ⟨⟨true, granted⟩, run⟩

/-- Any grants are those of some system. -/
theorem syncCodecContext_realises (grants : Grants) (good : WellFormed memory.chain) :
    let refused : Resources := ⟨true, grants.serverKey, true, true, true⟩
    AppRuntime.syncCodecContext grants cfg server (seen memory) =
      ((syncCodecContext refused (refusing grants.entry) cfg server memory).1,
        seen (syncCodecContext refused (refusing grants.entry) cfg server memory).2) := by
  intro refused
  cases cfg with
  | none => rfl
  | some cfg =>
  cases server with
  | none => rfl
  | some server =>
  obtain ⟨chain, emptied, goodChain, cleared⟩ := clearKeychain_seen good server.secure
  unfold AppRuntime.syncCodecContext syncCodecContext
  dsimp only
  rw [cleared, emptied]
  dsimp only
  split
  · have copied : (refused.nameCopy && (server.privKey.isNone || refused.privateRef)) =
        grants.serverKey := by
      change (grants.serverKey && (server.privKey.isNone || true)) = _
      rw [Bool.or_true, Bool.and_true]
    unfold setServerKey KnockContext.setServerKey
    dsimp only
    rw [copied]
    by_cases unnamed : server.name = []
    · rw [if_pos unnamed, if_pos unnamed]
    rw [if_neg unnamed, if_neg unnamed]
    cases given : grants.serverKey with
    | false => rfl
    | true =>
      exact @addUsers_realises ⟨some ⟨server.name, server.privKey⟩, server.secure, chain⟩
        grants.entry cfg.users goodChain
  · exact @addUsers_realises ⟨none, server.secure, chain⟩ grants.entry cfg.users goodChain

end sync

section history

structure Rebuild where
  keyResources : Resources
  resources : ℕ → Resources
  cfg : Option Config
  server : Option Server

def rebuild (memory : CodecMemory) (op : Rebuild) : CodecMemory :=
  (syncCodecContext op.keyResources op.resources op.cfg op.server memory).2

def rebuildSeen (context : CodecContext) (op : Rebuild × Grants) : CodecContext :=
  (AppRuntime.syncCodecContext op.2 op.1.cfg op.1.server context).2

def fresh : CodecMemory := ⟨none, false, KnockKeychain.create⟩

theorem rebuilds_seen {memory : CodecMemory} (good : WellFormed memory.chain)
    (ops : List Rebuild) : ∃ grants : List Grants, grants.length = ops.length ∧
      seen (ops.foldl rebuild memory) = (ops.zip grants).foldl rebuildSeen (seen memory) := by
  induction ops generalizing memory with
  | nil => exact ⟨[], rfl, rfl⟩
  | cons op ops ih =>
    obtain ⟨given, step⟩ := @syncCodecContext_refines memory op.keyResources op.resources op.cfg
      op.server good
    obtain ⟨grants, long, run⟩ := @ih (rebuild memory op)
      (syncCodecContext_wellFormed op.cfg op.server good)
    refine ⟨given :: grants, congrArg (· + 1) long, ?_⟩
    rw [List.foldl_cons, List.zip_cons_cons, List.foldl_cons, run]
    congr 1
    unfold rebuildSeen rebuild
    rw [step]

/-- From the daemon's start on, the codecs see of the keychain's memory what the rebuilds make of
an empty context. -/
theorem rebuilds_refine (ops : List Rebuild) : ∃ grants : List Grants,
    grants.length = ops.length ∧
      seen (ops.foldl rebuild fresh) = (ops.zip grants).foldl rebuildSeen KnockContext.create :=
  rebuilds_seen KnockKeychain.create_wellFormed ops

end history

end Siglatch.AppRuntimeKeychain
