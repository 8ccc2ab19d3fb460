import Siglatch.DaemonPayload

set_option autoImplicit false

namespace Siglatch.DaemonAllowlist
open MuxTypes AppConfig NetIpRange KnockDigest DaemonTypes RequestPolicy DaemonAuth DaemonPayload

/-- No handler runs for the job: the outcome is the same whatever the handlers would do. -/
def RunsNothing (hash : Hash) (runtime : Runtime) (job : Job) : Prop :=
  ∀ handlers other : Handlers, consume hash handlers runtime job = consume hash other runtime job

/-- The dead drop that takes the payload for its own. -/
def deaddropTaking (config : Option Config) (server : Server) (payload : Bytes) :
    Option (Deaddrop × ℕ) :=
  match deaddropStartsWithBuffer config server payload with
  | none => none
  | some (deaddrop, matchLen) =>
    if deaddrop.requireAscii && !isAscii payload then none else some (deaddrop, matchLen)

/-- The source address of the job is in none of the entries of a list that has some. -/
structure Blocked (server : Server) (ip : CString) : Prop where
  restricted : server.allowedIps ≠ []
  outside : ∀ spec ∈ server.allowedIps, containsSpecIpv4 spec ip = false

variable (hash : Hash) {runtime : Runtime} {job : Job} {server : Server}

theorem blocked_not_admitted (blocked : Blocked server job.ip) :
    ¬ Admits server.allowedIps job.ip := by
  rintro ⟨-, anyone | ⟨spec, member, contains⟩⟩
  · exact blocked.restricted anyone
  · rw [blocked.outside spec member] at contains
    contradiction

theorem consume_undispatched (structured : job.wireVersion ≠ 0) (handlers other : Handlers)
    (h : (consume hash handlers runtime job).dispatched = none) :
    consume hash handlers runtime job = consume hash other runtime job := by
  revert h
  unfold consume
  split
  · exact fun _ => rfl
  split
  · exact fun _ => rfl
  · dsimp only
    split
    · exact fun _ => rfl
    split
    · exact fun _ => rfl
    · intro dispatched
      cases dispatched

theorem structured_runs_nothing (listening : runtime.listener.server = some server)
    (blocked : Blocked server job.ip) (structured : job.wireVersion ≠ 0) :
    RunsNothing hash runtime job := by
  intro handlers other
  apply consume_undispatched hash structured
  rw [Option.eq_none_iff_forall_ne_some]
  rintro ⟨user, action⟩ dispatched
  obtain ⟨gated, gate⟩ := (consume_dispatched_iff hash handlers runtime structured user
    action).mp dispatched
  obtain rfl : gated = server := Option.some.inj (gate.listening.symm.trans listening)
  exact blocked_not_admitted blocked gate.server_admits

theorem unstructuredHandle_taking (handlers : Handlers)
    (listening : runtime.listener.server = some server) :
    unstructuredHandle handlers runtime job =
      match deaddropTaking runtime.config server job.request.payload with
      | none => job
      | some (deaddrop, matchLen) =>
        match handlers.runShellCapture runtime job deaddrop matchLen with
        | none => { job with response := [], shouldReply := false }
        | some captured =>
          { job with response := captured.output, shouldReply := captured.output != [] } := by
  unfold unstructuredHandle deaddropTaking
  rw [listening]
  dsimp only
  cases deaddropStartsWithBuffer runtime.config server job.request.payload with
  | none => rfl
  | some found =>
    obtain ⟨deaddrop, matchLen⟩ := found
    dsimp only
    split
    · rfl
    · rfl

def printing : Handlers :=
  { silentHandlers with runShellCapture := fun _ _ _ _ => some ⟨[1], by decide⟩ }

theorem raw_runs_nothing_iff (listening : runtime.listener.server = some server)
    (raw : job.wireVersion = 0) :
    RunsNothing hash runtime job ↔
      deaddropTaking runtime.config server job.request.payload = none := by
  have outcome (handlers : Handlers) : consume hash handlers runtime job =
      ⟨true, runtime, unstructuredHandle handlers runtime job, none⟩ := by
    unfold consume
    rw [listening, if_neg (Option.some_ne_none server), if_pos raw]
  constructor
  · intro same
    have jobs := congrArg Consumed.job (same silentHandlers printing)
    rw [outcome, outcome, unstructuredHandle_taking silentHandlers listening,
      unstructuredHandle_taking printing listening] at jobs
    cases taking : deaddropTaking runtime.config server job.request.payload with
    | none => rfl
    | some found =>
      rw [taking] at jobs
      exact absurd (congrArg Job.response jobs) (List.cons_ne_nil 1 []).symm
  · intro untaken handlers other
    rw [outcome, outcome, unstructuredHandle_taking handlers listening,
      unstructuredHandle_taking other listening, untaken]

/-- The server's allowlist keeps an address from every handler on the structured lane. On the raw
lane nothing reads it: there the address is kept out only where no dead drop takes the payload. -/
theorem blocked_runs_nothing_iff (listening : runtime.listener.server = some server)
    (blocked : Blocked server job.ip) :
    RunsNothing hash runtime job ↔ job.wireVersion ≠ 0 ∨
      deaddropTaking runtime.config server job.request.payload = none := by
  by_cases raw : job.wireVersion = 0
  · rw [raw_runs_nothing_iff hash listening raw]
    simp [raw]
  · exact iff_of_true (structured_runs_nothing hash listening blocked raw) (Or.inl raw)

def mailbox : Deaddrop where
  name := ascii ['m', 'a', 'i', 'l']
  constructor := ascii ['/', 'm', 'a', 'i', 'l']
  runAs := []
  startsWith := [ascii ['m', 's', 'g']]
  enabled := true
  requireAscii := true
  execSplit := true

def houseServer : Server :=
  { frontServer with
    allowedIps := [ascii ['1', '0', '.', '0', '.', '0', '.', '0', '/', '8']]
    deaddrops := [mailbox.name] }

def houseRuntime : Runtime :=
  { frontRuntime with
    config := some ⟨[alice], [openDoor], [houseServer], [mailbox]⟩
    listener := ⟨3, 50000, [], some houseServer⟩ }

def foreignIp : CString := ascii ['1', '9', '2', '.', '0', '.', '2', '.', '7']

def stranger (job : Job) : Job := { job with ip := foreignIp }

def rawMessage : Job :=
  { Job.zero with
    available := true
    request := { RequestPacket.zero with payload := ascii ['m', 's', 'g', ' ', 'h', 'i'] } }

theorem stranger_blocked (job : Job) : Blocked houseServer (stranger job).ip := by
  refine ⟨by decide, ?_⟩
  intro spec member
  obtain rfl := List.mem_singleton.mp member
  change containsSpecIpv4 (ascii ['1', '0', '.', '0', '.', '0', '.', '0', '/', '8'])
    foreignIp = false
  decide +kernel

/-- The signed request for the door comes to nothing from a foreign network. -/
theorem stranger_request_runs_nothing :
    RunsNothing plainHash houseRuntime (stranger doorRequest) := by
  have structured : (stranger doorRequest).wireVersion ≠ 0 := by decide
  exact (blocked_runs_nothing_iff plainHash rfl (stranger_blocked doorRequest)).mpr
    (Or.inl structured)

/-- A raw message from a foreign network starts the dead drop's script. -/
theorem stranger_message_runs_script :
    ¬ ∀ (hash : Hash) (runtime : Runtime) (job : Job) (server : Server),
      runtime.listener.server = some server → Blocked server job.ip →
      RunsNothing hash runtime job := by
  intro kept
  have same := kept plainHash houseRuntime (stranger rawMessage) houseServer rfl
    (stranger_blocked rawMessage) silentHandlers printing
  have silent : (consume plainHash silentHandlers houseRuntime (stranger rawMessage)).job.response =
    [] := by decide +kernel
  have printed : (consume plainHash printing houseRuntime (stranger rawMessage)).job.response =
    [1] := by decide +kernel
  rw [same, printed] at silent
  exact absurd silent (by decide)

end Siglatch.DaemonAllowlist
