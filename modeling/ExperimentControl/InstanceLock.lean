import ExperimentControl.Lib.Runs

/-!
The lock file of an instance (`utils/instance_lock.py`): any number of processes take and give back
the lock by steps on one path, in any order, and may die between any two of them.
-/

namespace ExperimentControl.InstanceLock
open Lib Function

/-- What `_read_info` makes of the file at the path: the file that was there, and the `pid` of its
payload. There is none where the file is gone or its text is not a JSON object. -/
structure Reading where
  file : Option Nat
  pid : Option Int
  deriving DecidableEq

/-- The path of the lock and the files behind it; a file that was unlinked stays behind the
descriptors that are open. -/
structure FileSystem where
  path : Option Nat
  pid : Nat → Option Int
  next : Nat
  below : ∀ file, path = some file → file < next

def FileSystem.read (fs : FileSystem) : Reading := ⟨fs.path,fs.path.bind fs.pid⟩

/-- `os.open(path, O_CREAT | O_EXCL | O_WRONLY)` where there is no file. -/
def FileSystem.create (fs : FileSystem) : FileSystem where
  path := some fs.next
  pid := update fs.pid fs.next none
  next := fs.next+1
  below := by simp

def FileSystem.write (fs : FileSystem) (file : Nat) (pid : Nat) : FileSystem :=
  { fs with pid := update fs.pid file (some pid) }

def FileSystem.unlink (fs : FileSystem) : FileSystem :=
  { fs with path := none,below := by simp }

/-- Where a process stands in `acquire` or `release`. -/
inductive Phase where
  | idle
  | creating
  | reading
  | judging (info : Reading)
  | unlinking (info : Reading)
  | writing (file : Nat)
  /-- `acquire` has returned. -/
  | holding (file : Nat)
  /-- In `release`, before `exists`. -/
  | releasing
  | readingOwn
  /-- About to remove the file in `release`. -/
  | unlinkingOwn (info : Reading)
  deriving DecidableEq

structure Process where
  alive : Bool
  phase : Phase
  deriving DecidableEq

structure System where
  processes : Nat → Process
  fs : FileSystem

def System.phase (s : System) (p : Nat) : Phase := (s.processes p).phase

def System.alive (s : System) (p : Nat) : Bool := (s.processes p).alive

def System.goto (s : System) (p : Nat) (phase : Phase) : System :=
  { s with processes := update s.processes p { s.processes p with phase } }

def Phase.file : Phase → Option Nat
  | .writing file => some file
  | .holding file => some file
  | _ => none

def System.file (s : System) (p : Nat) : Option Nat :=
  if s.alive p then (s.phase p).file else none

/-- The process lives, and is between a returned `acquire` and its `release`. -/
def System.Holds (s : System) (p : Nat) : Prop :=
  s.alive p = true ∧ ∃ file, s.phase p = .holding file

def System.Exclusive (s : System) : Prop := ∀ p q, s.Holds p → s.Holds q → p = q

/-- `_pid_is_alive`; `foreign` tells that the pid is one of a process that never takes the lock. -/
def System.pidIsAlive (s : System) (foreign : Bool) (pid : Int) : Bool :=
  0 < pid && (foreign || s.alive pid.toNat)

/-- The atomic steps; those that may fail say whether they do. -/
inductive Action where
  | spawn (p : Nat)
  | die (p : Nat)
  | acquire (p : Nat)
  | create (p : Nat)
  | read (p : Nat)
  | judge (p : Nat) (foreign : Bool)
  | unlink (p : Nat) (fails : Bool)
  | write (p : Nat) (fails : Bool)
  | release (p : Nat)
  | pathExists (p : Nat)
  | readOwn (p : Nat)
  | unlinkOwn (p : Nat) (fails : Bool)
  deriving DecidableEq

def System.spawn (s : System) (p : Nat) : System :=
  if 0 < p ∧ s.alive p = false then
    { s with processes := update s.processes p ⟨true,.idle⟩ }
  else s

def System.die (s : System) (p : Nat) : System :=
  { s with processes := update s.processes p ⟨false,.idle⟩ }

/-- The step of a live process in the phase that it is for. -/
def System.act (s : System) (p : Nat) (a : Action) : System :=
  match a,s.phase p with
  | .acquire _,.idle => s.goto p .creating
  | .create _,.creating =>
    match s.fs.path with
    | some _ => s.goto p .reading
    | none => { s with fs := s.fs.create }.goto p (.writing s.fs.next)
  | .read _,.reading => s.goto p (.judging s.fs.read)
  -- `InstanceLockActiveError` where the owner is alive
  | .judge _ foreign,.judging info =>
    if info.pid.any (s.pidIsAlive foreign) then s.goto p .idle else s.goto p (.unlinking info)
  | .unlink _ fails,.unlinking _ =>
    if s.fs.path.isSome && fails then s.goto p .idle
    else { s with fs := s.fs.unlink }.goto p .creating
  | .write _ fails,.writing file =>
    if fails then s.goto p .idle
    else { s with fs := s.fs.write file p }.goto p (.holding file)
  | .release _,.holding _ => s.goto p .releasing
  | .release _,.idle => s.goto p .releasing
  | .pathExists _,.releasing => s.goto p (if s.fs.path.isSome then .readingOwn else .idle)
  | .readOwn _,.readingOwn =>
    let info := s.fs.read
    s.goto p (if info.pid.any fun pid => pid ≠ (p : Int) then .idle else .unlinkingOwn info)
  | .unlinkOwn _ fails,.unlinkingOwn _ =>
    if fails then s.goto p .idle else { s with fs := s.fs.unlink }.goto p .idle
  | _,_ => s

def Action.pid : Action → Nat
  | .spawn p | .die p | .acquire p | .create p | .read p | .judge p _ | .unlink p _ | .write p _
  | .release p | .pathExists p | .readOwn p | .unlinkOwn p _ => p

def System.step (s : System) (a : Action) : System :=
  match a with
  | .spawn p => s.spawn p
  | .die p => s.die p
  | a => if s.alive a.pid then s.act a.pid a else s

/-- No process is there; a file may be left behind by one that died. -/
def System.initial (fs : FileSystem) : System := ⟨fun _ => ⟨false,.idle⟩,fs⟩

def System.Current (s : System) (info : Reading) : Prop :=
  s.fs.path = info.file ∧ info.pid.isSome ∨
    ∀ p file, s.file p = some file → s.fs.path ≠ some file

/-- A step that removes the file at the path removes the one that was read. -/
def System.Careful (s : System) : Action → Prop
  | .unlink p _ => ∀ info, s.phase p = .unlinking info → s.Current info
  | .unlinkOwn p _ => ∀ info, s.phase p = .unlinkingOwn info → s.Current info
  | _ => True

/-- What was read of a file that `q` has created: nothing, or the pid of `q`, which `q` is spared
for. -/
def Phase.Fair (file q : Nat) : Phase → Prop
  | .judging info => info.file = some file → info.pid = none ∨ info.pid = some (q : Int)
  | .unlinking info => info.file = some file → info.pid = none
  | .unlinkingOwn info => info.file = some file → info.pid = none
  | _ => True

def Phase.Below (next : Nat) : Phase → Prop
  | .judging info => ∀ file, info.file = some file → file < next
  | .unlinking info => ∀ file, info.file = some file → file < next
  | .unlinkingOwn info => ∀ file, info.file = some file → file < next
  | _ => True

structure System.Safe (s : System) : Prop where
  positive : ∀ p, s.alive p = true → 0 < p
  phase_below : ∀ p, (s.phase p).Below s.fs.next
  owned : ∀ p file, s.file p = some file → s.fs.path = some file ∧
    (s.fs.pid file = none ∨ s.fs.pid file = some (p : Int))
  distinct : ∀ p q file, s.file p = some file → s.file q = some file → p = q
  fair : ∀ p q file, s.file q = some file → (s.phase p).Fair file q

section
variable {s : System}

theorem System.file_of_alive {p file : Nat} (h : s.file p = some file) :
    s.alive p = true ∧ (s.phase p).file = some file := by
  unfold System.file at h
  split at h
  · exact ⟨by assumption,h⟩
  · simp at h

theorem System.Safe.file_lt (h : s.Safe) {p file : Nat} (hfile : s.file p = some file) :
    file < s.fs.next :=
  s.fs.below file (h.owned p file hfile).1

def System.moved (s : System) (p : Nat) (process : Process) (fs : FileSystem) : System :=
  ⟨update s.processes p process,fs⟩

variable {process : Process} {p : Nat} {fs : FileSystem}

theorem System.moved_phase (q : Nat) :
    (s.moved p process fs).phase q = if q = p then process.phase else s.phase q := by
  by_cases hq : q = p
  · subst hq
    simp [System.moved,System.phase]
  · simp [System.moved,System.phase,hq]

theorem System.moved_alive (q : Nat) :
    (s.moved p process fs).alive q = if q = p then process.alive else s.alive q := by
  by_cases hq : q = p
  · subst hq
    simp [System.moved,System.alive]
  · simp [System.moved,System.alive,hq]

theorem System.moved_file (q : Nat) : (s.moved p process fs).file q =
      if q = p then (if process.alive then process.phase.file else none) else s.file q := by
  simp only [System.file,System.moved_alive,System.moved_phase]
  by_cases hq : q = p
  · simp only [hq,if_true]
  · simp only [hq,if_false]

structure System.Move (s : System) (p : Nat) (process : Process) (fs : FileSystem) : Prop where
  positive : process.alive = true → 0 < p
  grows : s.fs.next ≤ fs.next
  below : process.phase.Below fs.next
  others : ∀ q file, q ≠ p → s.file q = some file →
    fs.path = some file ∧ fs.pid file = s.fs.pid file
  owned : ∀ file, process.alive = true → process.phase.file = some file →
    fs.path = some file ∧ (fs.pid file = none ∨ fs.pid file = some (p : Int))
  own : ∀ file, process.alive = true → process.phase.file = some file →
    s.file p = some file ∨ s.fs.next ≤ file
  fair : ∀ q file, q ≠ p → s.file q = some file → process.phase.Fair file q

variable {phase : Phase}

theorem Phase.Below.mono {next more : Nat} (h : phase.Below next)
    (hle : next ≤ more) : phase.Below more := by
  cases phase <;> simp only [Phase.Below] at h ⊢ <;>
    exact fun file hfile => Nat.lt_of_lt_of_le (h file hfile) hle

theorem Phase.Below.fair {next file : Nat} (h : phase.Below next)
    (hle : next ≤ file) (q : Nat) : phase.Fair file q := by
  cases phase <;> simp only [Phase.Below,Phase.Fair] at h ⊢ <;>
    exact fun hfile => absurd (h file hfile) (by omega)

theorem Phase.fair_of_file {file : Nat} (h : phase.file = some file)
    (other q : Nat) : phase.Fair other q := by
  cases phase <;> simp_all [Phase.file,Phase.Fair]

theorem System.Move.safe (h : s.Safe)
    (hmove : s.Move p process fs) : (s.moved p process fs).Safe where
  positive q := by
    rw [System.moved_alive]
    split
    · rename_i hq
      subst hq
      exact hmove.positive
    · exact h.positive q
  phase_below q := by
    rw [System.moved_phase]
    split
    · exact hmove.below
    · exact (h.phase_below q).mono hmove.grows
  owned q file hfile := by
    rw [System.moved_file] at hfile
    split at hfile
    · rename_i hq
      subst hq
      split at hfile
      · exact hmove.owned file (by assumption) hfile
      · simp at hfile
    · rename_i hq
      obtain ⟨hpath,hpid⟩ := hmove.others q file hq hfile
      have howned := (h.owned q file hfile).2
      exact ⟨hpath,by simpa [System.moved,hpid] using howned⟩
  distinct q r file hq hr := by
    have hnew : ∀ x, x ≠ p → s.file x = some file →
        process.alive = true → process.phase.file = some file → False := by
      intro x hx hfile halive hown
      cases hmove.own file halive hown with
      | inl hsame => exact hx (h.distinct x p file hfile hsame)
      | inr hnext =>
        have hlt := h.file_lt hfile
        omega
    rw [System.moved_file] at hq hr
    by_cases hqp : q = p
    · by_cases hrp : r = p
      · rw [hqp,hrp]
      · simp only [hqp,hrp,if_true,if_false] at hq hr
        split at hq
        · exact absurd hq fun hq => hnew r hrp hr (by assumption) hq
        · simp at hq
    · by_cases hrp : r = p
      · simp only [hqp,hrp,if_true,if_false] at hq hr
        split at hr
        · exact absurd hr fun hr => hnew q hqp hq (by assumption) hr
        · simp at hr
      · simp only [hqp,hrp,if_false] at hq hr
        exact h.distinct q r file hq hr
  fair q r file hfile := by
    rw [System.moved_file] at hfile
    rw [System.moved_phase]
    by_cases hr : r = p
    · simp only [hr,if_true] at hfile
      split at hfile
      · rename_i halive
        by_cases hq : q = p
        · simp only [hq,if_true]
          exact Phase.fair_of_file hfile file r
        · simp only [hq,if_false]
          cases hmove.own file halive hfile with
          | inl hsame => exact hr ▸ h.fair q p file hsame
          | inr hnext => exact (h.phase_below q).fair hnext r
      · simp at hfile
    · simp only [hr,if_false] at hfile
      by_cases hq : q = p
      · simp only [hq,if_true]
        exact hmove.fair r file hr hfile
      · simp only [hq,if_false]
        exact h.fair q r file hfile

variable {p : Nat}

theorem System.goto_eq (phase : Phase) :
    s.goto p phase = s.moved p { s.processes p with phase } s.fs := rfl

section
variable (h : s.Safe)
include h

theorem System.Safe.stay (hpositive : process.alive = true → 0 < p)
    (hfile : process.phase.file = none) (hbelow : process.phase.Below s.fs.next)
    (hfair : ∀ q file, q ≠ p → s.file q = some file → process.phase.Fair file q) :
    (s.moved p process s.fs).Safe := by
  apply System.Move.safe h
  constructor
  · exact hpositive
  · exact Nat.le_refl _
  · exact hbelow
  · intro q file _ hq
    exact ⟨(h.owned q file hq).1,rfl⟩
  · intro file _ hown
    simp [hfile] at hown
  · intro file _ hown
    simp [hfile] at hown
  · exact hfair

theorem System.Safe.goto_plain (halive : s.alive p = true)
    (hplain : phase = .idle ∨ phase = .creating ∨ phase = .reading ∨ phase = .releasing ∨
      phase = .readingOwn) : (s.goto p phase).Safe := by
  rw [System.goto_eq]
  apply h.stay
  · intro _
    exact h.positive p halive
  all_goals
    obtain rfl | rfl | rfl | rfl | rfl := hplain <;> simp [Phase.file,Phase.Below,Phase.Fair]

theorem System.Safe.unlinked (halive : s.alive p = true)
    (hplain : phase = .idle ∨ phase = .creating) (hnone : ∀ q file, q ≠ p → s.file q ≠ some file) :
    ({ s with fs := s.fs.unlink }.goto p phase).Safe := by
  have hmove : s.Move p { s.processes p with phase } s.fs.unlink := by
    constructor
    · intro _
      exact h.positive p halive
    · exact Nat.le_refl _
    · obtain rfl | rfl := hplain <;> simp [Phase.Below]
    · intro q file hq hfile
      exact absurd hfile (hnone q file hq)
    · obtain rfl | rfl := hplain <;> simp [Phase.file]
    · obtain rfl | rfl := hplain <;> simp [Phase.file]
    · intro q file hq hfile
      exact absurd hfile (hnone q file hq)
  have hsafe := hmove.safe h
  exact hsafe

theorem System.Current.none {info : Reading} (hcurrent : s.Current info)
    (hphase : s.phase p = .unlinking info ∨ s.phase p = .unlinkingOwn info) (q file : Nat) :
    s.file q ≠ some file := by
  intro hfile
  have hpath := (h.owned q file hfile).1
  cases hcurrent with
  | inl hread =>
    have hfair := h.fair p q file hfile
    have hsame : info.file = some file := by rw [← hread.1,hpath]
    have hpid := hread.2
    cases hphase with
    | inl hp => simp [hp,Phase.Fair,hsame] at hfair; simp [hfair] at hpid
    | inr hp => simp [hp,Phase.Fair,hsame] at hfair; simp [hfair] at hpid
  | inr hother => exact hother q file hfile hpath

theorem System.Safe.create (halive : s.alive p = true) (hpath : s.fs.path = none) :
    ({ s with fs := s.fs.create }.goto p (.writing s.fs.next)).Safe := by
  have hmove : s.Move p { s.processes p with phase := .writing s.fs.next } s.fs.create := by
    constructor
    · intro _
      exact h.positive p halive
    · simp [FileSystem.create]
    · simp [Phase.Below]
    · intro q file _ hfile
      have howned := (h.owned q file hfile).1
      simp [hpath] at howned
    · intro file _ hown
      simp [Phase.file] at hown
      simp [FileSystem.create,hown]
    · intro file _ hown
      simp [Phase.file] at hown
      exact .inr (by omega)
    · simp [Phase.Fair]
  have hsafe := hmove.safe h
  exact hsafe

theorem System.Safe.write (halive : s.alive p = true) {file : Nat}
    (hphase : s.phase p = .writing file) :
    ({ s with fs := s.fs.write file p }.goto p (.holding file)).Safe := by
  have hfile : s.file p = some file := by simp [System.file,halive,hphase,Phase.file]
  have hmove : s.Move p { s.processes p with phase := .holding file } (s.fs.write file p) := by
    constructor
    · intro _
      exact h.positive p halive
    · exact Nat.le_refl _
    · simp [Phase.Below]
    · intro q other hq hother
      have hne : other ≠ file := by
        intro heq
        exact hq (h.distinct q p file (heq ▸ hother) hfile)
      exact ⟨(h.owned q other hother).1,by simp [FileSystem.write,hne]⟩
    · intro other _ hown
      simp only [Phase.file,Option.some.injEq] at hown
      subst hown
      exact ⟨(h.owned p file hfile).1,by simp [FileSystem.write]⟩
    · intro other _ hown
      simp only [Phase.file,Option.some.injEq] at hown
      exact .inl (hown ▸ hfile)
    · simp [Phase.Fair]
  have hsafe := hmove.safe h
  exact hsafe

theorem System.Safe.read_fair {q file : Nat} (hfile : s.file q = some file) :
    s.fs.read.pid = none ∨ s.fs.read.pid = some (q : Int) := by
  obtain ⟨hpath,hpid⟩ := h.owned q file hfile
  simpa [FileSystem.read,hpath] using hpid

theorem System.Safe.read (halive : s.alive p = true) : (s.goto p (.judging s.fs.read)).Safe := by
  rw [System.goto_eq]
  apply h.stay
  · intro _
    exact h.positive p halive
  · rfl
  · exact s.fs.below
  · intro q file _ hfile _
    exact h.read_fair hfile

theorem System.Safe.judge (halive : s.alive p = true) {info : Reading}
    (hphase : s.phase p = .judging info) {foreign : Bool}
    (hdead : info.pid.any (s.pidIsAlive foreign) = false) : (s.goto p (.unlinking info)).Safe := by
  rw [System.goto_eq]
  have hbelow := h.phase_below p
  rw [hphase] at hbelow
  apply h.stay
  · intro _
    exact h.positive p halive
  · rfl
  · exact hbelow
  · intro q file _ hfile hsame
    have hfair := h.fair p q file hfile
    simp only [hphase,Phase.Fair] at hfair
    cases hfair hsame with
    | inl hnone => exact hnone
    | inr hpid =>
      have hq := (System.file_of_alive hfile).1
      have hpos := h.positive q hq
      simp [hpid,System.pidIsAlive,hq] at hdead
      omega

theorem System.Safe.readOwn (halive : s.alive p = true)
    (hown : (s.fs.read.pid.any fun pid => pid ≠ (p : Int)) = false) :
    (s.goto p (.unlinkingOwn s.fs.read)).Safe := by
  rw [System.goto_eq]
  apply h.stay
  · intro _
    exact h.positive p halive
  · rfl
  · exact s.fs.below
  · intro q file hq hfile _
    cases h.read_fair hfile with
    | inl hnone => exact hnone
    | inr hpid =>
      simp [hpid] at hown
      omega

theorem System.Safe.spawn (p : Nat) : (s.spawn p).Safe := by
  unfold System.spawn
  split
  · rename_i hnew
    have hsafe : (s.moved p ⟨true,.idle⟩ s.fs).Safe := by
      apply h.stay
      · intro _
        exact hnew.1
      all_goals simp [Phase.file,Phase.Below,Phase.Fair]
    exact hsafe
  · exact h

theorem System.Safe.die (p : Nat) : (s.die p).Safe := by
  have hsafe : (s.moved p ⟨false,.idle⟩ s.fs).Safe := by
    apply h.stay <;> simp [Phase.file,Phase.Below,Phase.Fair]
  exact hsafe

theorem System.Safe.act {a : Action} (halive : s.alive a.pid = true)
    (hcareful : s.Careful a) : (s.act a.pid a).Safe := by
  unfold System.act
  split
  case h_1 => exact h.goto_plain halive (by simp)
  case h_2 =>
    split
    · exact h.goto_plain halive (by simp)
    · rename_i hpath
      exact h.create halive hpath
  case h_3 => exact h.read halive
  case h_4 foreign info hphase =>
    split
    · exact h.goto_plain halive (by simp)
    · rename_i hdead
      exact h.judge halive hphase (by simpa using hdead)
  case h_5 info hphase =>
    split
    · exact h.goto_plain halive (by simp)
    · apply h.unlinked halive (by simp)
      intro q file _
      exact System.Current.none h (hcareful info hphase) (.inl hphase) q file
  case h_6 file hphase =>
    split
    · exact h.goto_plain halive (by simp)
    · exact h.write halive hphase
  case h_7 => exact h.goto_plain halive (by simp)
  case h_8 => exact h.goto_plain halive (by simp)
  case h_9 =>
    split
    · exact h.goto_plain halive (by simp)
    · exact h.goto_plain halive (by simp)
  case h_10 =>
    dsimp only
    split
    · exact h.goto_plain halive (by simp)
    · rename_i hown
      exact h.readOwn halive (by simpa using hown)
  case h_11 info hphase =>
    split
    · exact h.goto_plain halive (by simp)
    · apply h.unlinked halive (by simp)
      intro q file _
      exact System.Current.none h (hcareful info hphase) (.inr hphase) q file
  case h_12 => exact h

theorem System.Safe.step {a : Action} (hcareful : s.Careful a) : (s.step a).Safe := by
  unfold System.step
  split
  · exact h.spawn _
  · exact h.die _
  · split
    · rename_i halive
      exact h.act halive hcareful
    · exact h

theorem System.Safe.exclusive : s.Exclusive := by
  intro p q hp hq
  obtain ⟨hpAlive,file,hpFile⟩ := hp
  obtain ⟨hqAlive,other,hqFile⟩ := hq
  have hfile : s.file p = some file := by simp [System.file,hpAlive,hpFile,Phase.file]
  have hother : s.file q = some other := by simp [System.file,hqAlive,hqFile,Phase.file]
  have hpath := (h.owned p file hfile).1
  have hsame : some file = some other := by rw [← hpath,(h.owned q other hother).1]
  exact h.distinct p q file hfile (by rw [hother,hsame])

end

end

theorem System.initial_safe (fs : FileSystem) : (System.initial fs).Safe := by
  constructor
  all_goals simp [System.initial,System.alive,System.file,System.phase,Phase.Below,Phase.Fair]

/-- In every run in which a process only removes the file that it has read, with its payload, or
one that no live process has created, at most one live process holds the lock. -/
theorem exclusive_of_careful (fs : FileSystem) (actions : List Action)
    (hcareful : Meets System.step System.Careful (System.initial fs) actions) :
    (run System.step (System.initial fs) actions).Exclusive := by
  have hsafe := hcareful.invariant (P := System.Safe) (fun s a h hok => h.step hok)
    (System.initial_safe fs)
  exact hsafe.exclusive

def leftBehind : FileSystem := ⟨some 0,fun _ => some 7,1,by simp⟩

/-- The first process takes over the lock left behind, while the second comes to the lock and is
refused. -/
theorem exclusive_of_careful_recovered :
    let taken := run System.step (System.initial leftBehind)
      [.spawn 1,.spawn 2,.acquire 1,.create 1,.read 1,.judge 1 false,.acquire 2,.unlink 1 false,
        .create 1,.create 2,.write 1 false,.read 2,.judge 2 false]
    taken.Exclusive ∧ taken.Holds 1 ∧ taken.alive 2 = true := by
  refine ⟨exclusive_of_careful leftBehind _ ?_,⟨rfl,1,rfl⟩,rfl⟩
  refine ⟨trivial,trivial,trivial,trivial,trivial,trivial,trivial,?_,trivial,trivial,trivial,trivial,
    trivial,trivial⟩
  intro info hphase
  have hinfo : Phase.unlinking ⟨some 0,some 7⟩ = .unlinking info := hphase
  cases hinfo
  exact .inl ⟨rfl,rfl⟩

theorem both_hold_unwritten : ¬ (run System.step (System.initial ⟨none,fun _ => none,0,by rintro _ ⟨⟩⟩)
      [.spawn 1,.spawn 2,.acquire 1,.create 1,.acquire 2,.create 2,.read 2,.judge 2 false,
        .unlink 2 false,.create 2,.write 2 false,.write 1 false]).Exclusive := by
  intro hexclusive
  have hsame : (1 : Nat) = 2 := hexclusive 1 2 ⟨rfl,0,rfl⟩ ⟨rfl,1,rfl⟩
  simp at hsame

end ExperimentControl.InstanceLock
