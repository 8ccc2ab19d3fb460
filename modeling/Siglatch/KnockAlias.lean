import Siglatch.KnockAliasOps

set_option autoImplicit false

namespace Siglatch.KnockAlias
open MuxTypes TextLines KnockAliasMap KnockAliasOps

/-- The id of the last set of a name that no delete of it followed, or 0. -/
def lastId (kind : AliasKind) (done : List AliasCommand) (name : CString) : ℕ :=
  match done.reverse.find? fun command => command.op.kind = kind ∧ command.name = name with
  | none => 0
  | some command => if command.op.sets then command.id else 0

section lastId
variable (kind : AliasKind) (done : List AliasCommand) (command : AliasCommand)

theorem lastId_same : lastId command.op.kind (done ++ [command]) command.name =
    if command.op.sets then command.id else 0 := by
  simp [lastId]

theorem lastId_other {name : CString} (h : kind ≠ command.op.kind ∨ name ≠ command.name) :
    lastId kind (done ++ [command]) name = lastId kind done name := by
  have hmiss : ¬ (command.op.kind = kind ∧ command.name = name) := by
    rintro ⟨hkind, hname⟩
    exact h.elim (fun hne => hne hkind.symm) (fun hne => hne hname.symm)
  unfold lastId
  rw [List.reverse_append, List.reverse_singleton, List.singleton_append,
    List.find?_cons_of_neg (by simpa using hmiss)]

end lastId

/-- Each file holds entries that give every name the id it was last set to. -/
def Recorded (files : MapFiles) (done : List AliasCommand) : Prop :=
  ∀ kind, ∃ list, Held kind.maxId (files kind) list ∧
    ∀ name, idOf list name = lastId kind done name

theorem recorded_empty : Recorded (fun _ => none) [] :=
  fun _ => ⟨[], ⟨.inl ⟨rfl, rfl⟩, by simp, by simp⟩, fun _ => rfl⟩

def Allowed (command : AliasCommand) : Prop := Issued command ∧ Unbroken command

theorem step_recorded (files : MapFiles) (done : List AliasCommand) (now : Io × AliasCommand)
    (hallowed : Allowed now.2) (h : Recorded files done) :
    Recorded (step files now).1 (done ++ (step files now).2) := by
  obtain ⟨io, command⟩ := now
  obtain ⟨list, hheld, hids⟩ := h command.op.kind
  have hexecuted := execute_executed io hheld hallowed.1 hallowed.2
  have hstep : step files (io, command) =
      (Function.update files command.op.kind (execute io (files command.op.kind) command).file,
        if (execute io (files command.op.kind) command).ok then [command] else []) := rfl
  rw [hstep]
  rcases hexecuted with hfailed | ⟨hok, list', hheld', hrewrites⟩
  · rw [hfailed]
    simp only [Function.update_eq_self, Bool.false_eq_true, if_false, List.append_nil]
    exact h
  rw [hok, if_pos rfl]
  intro kind
  by_cases hkind : kind = command.op.kind
  · subst hkind
    refine ⟨list', by simpa using hheld', fun name => ?_⟩
    by_cases hname : name = command.name
    · rw [hname, hrewrites.here, lastId_same]
    · rw [hrewrites.others name hname, hids, lastId_other _ _ _ (.inr hname)]
  · -- the other map keeps its file
    obtain ⟨list₂, hheld₂, hids₂⟩ := h kind
    refine ⟨list₂, by simpa [Function.update_of_ne hkind] using hheld₂, fun name => ?_⟩
    rw [hids₂, lastId_other _ _ _ (.inl hkind)]

theorem run_recorded (commands : List (Io × AliasCommand))
    (hallowed : ∀ now ∈ commands, Allowed now.2) :
    Recorded (run commands).1 (run commands).2 :=
  StepRuns.run_history (fun now => Allowed now.2)
    (fun files done now hnow h => step_recorded files done now hnow h)
    (fun _ => none) recorded_empty commands hallowed

theorem run_snoc (before : List (Io × AliasCommand)) (now : Io × AliasCommand) :
    run (before ++ [now]) =
      ((step (run before).1 now).1, (run before).2 ++ (step (run before).1 now).2) := by
  unfold run
  rw [StepRuns.run_append]
  simp [StepRuns.run]

/-- The maps of a host after a run of commands, as the commands that were carried out left
    them. -/
structure Persistent (host : CString) (commands : List (Io × AliasCommand)) : Prop where
  resolves : ∀ kind (io : Io) name, io.Readable →
    resolveKind kind io ((run commands).1 kind) host name = lastId kind (run commands).2 name
  settles : ∀ before now (io : Io), commands = before ++ [now] → now.1.Willing → io.Readable →
    resolveKind now.2.op.kind io ((run commands).1 now.2.op.kind) host now.2.name =
      if now.2.op.sets then now.2.id else 0
  others : ∀ before now kind (io : Io) name, commands = before ++ [now] → io.Readable →
    kind ≠ now.2.op.kind ∨ name ≠ now.2.name →
    resolveKind kind io ((run commands).1 kind) host name =
      resolveKind kind io ((run before).1 kind) host name

theorem resolveKind_eq (kind : AliasKind) (io : Io) (file : Option Bytes) (host name : CString) :
    resolveKind kind io file host name = resolve io kind.maxId file host name := by
  cases kind <;> rfl

section run
variable {host : CString} (hhost : host ≠ []) (commands before : List (Io × AliasCommand))
  (now : Io × AliasCommand)
include hhost

theorem run_resolves (hallowed : ∀ now ∈ commands, Allowed now.2) (kind : AliasKind) {io : Io}
    (hio : io.Readable) (name : CString) :
    resolveKind kind io ((run commands).1 kind) host name = lastId kind (run commands).2 name := by
  obtain ⟨list, hheld, hids⟩ := run_recorded commands hallowed kind
  rw [resolveKind_eq, resolve_held hheld hio hhost, hids]

theorem run_settles (hallowed : ∀ c ∈ before ++ [now], Allowed c.2) {io : Io}
    (hwilling : now.1.Willing) (hio : io.Readable) :
    resolveKind now.2.op.kind io ((run (before ++ [now])).1 now.2.op.kind) host now.2.name =
      if now.2.op.sets then now.2.id else 0 := by
  have hbefore : ∀ c ∈ before, Allowed c.2 :=
    fun c hc => hallowed c (List.mem_append_left _ hc)
  have hnow := hallowed now (List.mem_append_right _ List.mem_cons_self)
  obtain ⟨list, hheld, hids⟩ := run_recorded before hbefore now.2.op.kind
  rw [run_resolves hhost (before ++ [now]) hallowed now.2.op.kind hio, run_snoc]
  change lastId _ ((run before).2 ++ if (execute _ _ _).ok then [now.2] else []) _ = _
  rcases execute_willing hwilling hheld hnow.1 with hok | ⟨hdelete, hgone⟩
  · rw [hok, if_pos rfl, lastId_same]
  · split
    · rw [lastId_same]
    · rw [List.append_nil, ← hids, hgone, if_neg (by simp [hdelete])]

theorem run_others (hallowed : ∀ c ∈ before ++ [now], Allowed c.2) (kind : AliasKind)
    {io : Io} (hio : io.Readable) (name : CString)
    (h : kind ≠ now.2.op.kind ∨ name ≠ now.2.name) :
    resolveKind kind io ((run (before ++ [now])).1 kind) host name =
      resolveKind kind io ((run before).1 kind) host name := by
  have hbefore : ∀ c ∈ before, Allowed c.2 :=
    fun c hc => hallowed c (List.mem_append_left _ hc)
  rw [run_resolves hhost (before ++ [now]) hallowed kind hio,
    run_resolves hhost before hbefore kind hio, run_snoc]
  change lastId _ ((run before).2 ++ if (execute _ _ _).ok then [now.2] else []) _ = _
  split
  · exact lastId_other kind _ now.2 h
  · rw [List.append_nil]

end run

theorem separated_set_lost {host : CString} (before : List (Io × AliasCommand))
    (now : Io × AliasCommand) (hsets : now.2.op.sets = true) (hid : 1 ≤ now.2.id)
    (hdone : (step (run before).1 now).2 = [now.2]) (hname : 44 ∈ now.2.name ∨ 10 ∈ now.2.name) :
    ¬ Persistent host (before ++ [now]) := by
  intro h
  have hresolves := h.resolves now.2.op.kind ⟨true, true, true, true, true⟩ now.2.name
    ⟨rfl, rfl, rfl⟩
  rw [resolveKind_eq, resolve_separated hname, run_snoc, hdone, lastId_same, if_pos hsets]
    at hresolves
  omega

end Siglatch.KnockAlias
