import Tvd.Io.Logged
import Tvd.Io.Sockaddr
import Tvd.Ledger.Lifetime
import Tvd.Model.Process
import Tvd.Process.CommandLine

/-! How the process starts. Whatever the system answers, a descriptor, the callback table
and the task queue are used only while the process has them, and connecting and all
transfers wait for the descriptor to be non-blocking. If the connection request is made,
the process holds all three, and if not, it has given back whatever it got. -/

namespace Tvd

open Exec Ledger

/-! ### Resources -/

/-- What the process gets from the system and has to give back: descriptors, the table of
the callbacks of its connection, and the task queue. -/
inductive Resource where
  | descriptor (fd : Int32)
  | table
  | taskQueue
  deriving DecidableEq

/-- I/O on -1 fails, and uses no descriptor. The tasks that are queued are not logged, so
nothing here uses the task queue. -/
def IoEvent.Uses (event : IoEvent) : Resource → Prop
  | .descriptor fd => event.fd = some fd ∧ fd ≠ -1
  | .table => ∃ fd events result, event = .addFdEvents fd events result
  | .taskQueue => False

/-- The descriptor of an event that would block in a descriptor's usual mode. -/
def IoEvent.transfers : IoEvent → Option Int32
  | .recvmsg fd | .sendPduWbuf fd _ _ => some fd
  | _ => none

namespace SysEvent

def Uses : SysEvent → Resource → Prop
  | .io event, r => event.Uses r
  | .fcntl fd _ _, r | .connect fd _ _, r => r = .descriptor fd
  | _, _ => False

def acquires : SysEvent → Option Resource
  | .socket fd => if 0 ≤ fd.toInt then some (.descriptor fd) else none
  | .calloc ok => if ok then some .table else none
  | .initTaskQueue result => if 0 ≤ result.toInt then some .taskQueue else none
  | _ => none

def releases : SysEvent → Option Resource
  | .io (.close fd) => some (.descriptor fd)
  | .free => some .table
  | .uninitTaskQueue => some .taskQueue
  | _ => none

def resources : Lifetime SysEvent Resource := ⟨fun _ => acquires, Uses, releases⟩

/-- The descriptors that were made non-blocking. -/
def nonblocking : Lifetime SysEvent Int32 where
  acquires _
    | .fcntl fd (.setFl flags) result => if 0 ≤ result.toInt ∧ flags &&& oNonblock ≠ 0 then some fd else none
    | _ => none
  uses
    | .connect fd _ _, r => r = fd
    | .io event, r => event.transfers = some r ∧ r ≠ -1
    | _, _ => False
  releases _ := none

end SysEvent

/-! ### What was asked so far -/

section

variable {p : Platform} {host : Host p}

/-- The address is as long as it has to be for the name, which is behind the family,
between two NUL bytes. -/
def Host.Names (host : Host p) (socketName : CString) (address : ℤ × List UInt8) : Prop :=
  address.1 = host.layout.offsetofSunPath + socketName.strlen + 2 ∧
    address.2.drop host.layout.offsetofSunPath = 0 :: (socketName.val ++ [0])

/-- Nothing was used that the process did not have, it has these resources, and its
descriptor is non-blocking; and all it tried to connect to has this name. -/
structure Asked (host : Host p) (socketName : CString) (log : List SysEvent) (R : Set Resource) (B : Set Int32) :
    Prop where
  resources : SysEvent.resources.Holds log R
  nonblocking : SysEvent.nonblocking.Holds log B
  names : ∀ fd address result, .connect fd address result ∈ log → host.Names socketName address

theorem asked_nil (host : Host p) (socketName : CString) : Asked host socketName [] ∅ ∅ :=
  ⟨Lifetime.holds_nil, Lifetime.holds_nil, nofun⟩

namespace Asked

variable {socketName : CString} {log : List SysEvent} {R : Set Resource} {B : Set Int32}
  (h : Asked host socketName log R B)

include h

theorem names_cons {event : SysEvent} (hevent : ∀ fd address result, event ≠ .connect fd address result) :
    ∀ fd address result, .connect fd address result ∈ event :: log → host.Names socketName address := by
  intro fd address result hmem
  rcases List.mem_cons.mp hmem with heq | hmem
  · exact absurd heq.symm (hevent fd address result)
  · exact h.names fd address result hmem

/-- The system gives nothing. -/
theorem refused (event : SysEvent) (hacquires : event.acquires = none)
    (hevent : (∃ fd, event = .socket fd) ∨ (∃ ok, event = .calloc ok) ∨ ∃ result, event = .initTaskQueue result) :
    Asked host socketName (event :: log) R B := by
  rcases hevent with ⟨_, rfl⟩ | ⟨_, rfl⟩ | ⟨_, rfl⟩
  all_goals exact ⟨h.resources.use hacquires rfl nofun, h.nonblocking.use rfl rfl nofun, h.names_cons nofun⟩

theorem got (event : SysEvent) {r : Resource} (hacquires : event.acquires = some r) (hfresh : r ∉ R) :
    Asked host socketName (event :: log) (insert r R) B := by
  cases event with
  | socket | calloc | initTaskQueue =>
    exact ⟨h.resources.acquire hacquires hfresh (fun _ => nofun) rfl, h.nonblocking.use rfl rfl nofun,
      h.names_cons nofun⟩
  | io | fcntl | connect | free | uninitTaskQueue | destroyPduRbuf => cases hacquires

theorem free (htable : .table ∈ R) : Asked host socketName (.free :: log) (R \ {.table}) B :=
  ⟨h.resources.release rfl htable nofun rfl, h.nonblocking.use rfl rfl nofun, h.names_cons nofun⟩

theorem uninitTaskQueue (hqueue : .taskQueue ∈ R) :
    Asked host socketName (.uninitTaskQueue :: log) (R \ {.taskQueue}) B :=
  ⟨h.resources.release rfl hqueue nofun rfl, h.nonblocking.use rfl rfl nofun, h.names_cons nofun⟩

theorem destroyPduRbuf : Asked host socketName (.destroyPduRbuf :: log) R B :=
  ⟨h.resources.use rfl rfl nofun, h.nonblocking.use rfl rfl nofun, h.names_cons nofun⟩

theorem close {fd : Int32} (hfd : .descriptor fd ∈ R) :
    Asked host socketName (.io (.close fd) :: log) (R \ {.descriptor fd}) B := by
  refine ⟨h.resources.release rfl hfd (fun r hr => ?_) rfl, h.nonblocking.use rfl rfl nofun, h.names_cons nofun⟩
  cases r with
  | descriptor fd' =>
    obtain ⟨heq, -⟩ := hr
    cases heq
    exact hfd
  | table =>
    obtain ⟨_, _, _, heq⟩ := hr
    cases heq
  | taskQueue => exact hr.elim

/-- I/O that leaves the descriptor open. -/
theorem io (event : IoEvent) (hclose : ∀ fd, event ≠ .close fd) (hresources : ∀ r, event.Uses r → r ∈ R)
    (htransfers : ∀ fd, event.transfers = some fd → fd ≠ -1 → fd ∈ B) :
    Asked host socketName (.io event :: log) R B := by
  refine ⟨h.resources.use rfl ?_ hresources, h.nonblocking.use rfl rfl fun fd hr => htransfers fd hr.1 hr.2,
    h.names_cons nofun⟩
  cases event with
  | close fd => exact absurd rfl (hclose fd)
  | handlePdu | ioStateSend | sendPduWbuf | destroyPduWbuf | recvmsg | addFdEvents | removeFd => rfl

/-- A call that does not set the status flags. -/
theorem fcntl {fd : Int32} (cmd : Fcntl) (hcmd : ∀ flags, cmd ≠ .setFl flags) (hfd : .descriptor fd ∈ R)
    (result : Int32) : Asked host socketName (.fcntl fd cmd result :: log) R B := by
  refine ⟨h.resources.use rfl rfl fun _ hr => hr ▸ hfd, h.nonblocking.use ?_ rfl nofun, h.names_cons nofun⟩
  cases cmd with
  | setFl flags => exact absurd rfl (hcmd flags)
  | getFd | setFd | getFl => rfl

theorem setFl_refused {fd flags result : Int32} (hfd : .descriptor fd ∈ R) (hresult : result.toInt < 0) :
    Asked host socketName (.fcntl fd (.setFl flags) result :: log) R B :=
  ⟨h.resources.use rfl rfl fun _ hr => hr ▸ hfd,
    h.nonblocking.use (if_neg fun hok => Int.not_le.mpr hresult hok.1) rfl nofun, h.names_cons nofun⟩

theorem setFl {fd flags result : Int32} (hfd : .descriptor fd ∈ R) (hresult : 0 ≤ result.toInt)
    (hflags : flags &&& oNonblock ≠ 0) (hfresh : fd ∉ B) :
    Asked host socketName (.fcntl fd (.setFl flags) result :: log) R (insert fd B) :=
  ⟨h.resources.use rfl rfl fun _ hr => hr ▸ hfd,
    h.nonblocking.acquire (if_pos ⟨hresult, hflags⟩) hfresh (fun _ => nofun) rfl, h.names_cons nofun⟩

theorem connect {fd : Int32} {address : ℤ × List UInt8} (hfd : .descriptor fd ∈ R) (hmode : fd ∈ B)
    (hnames : host.Names socketName address) (result : Int32) :
    Asked host socketName (.connect fd address result :: log) R B := by
  refine ⟨h.resources.use rfl rfl fun _ hr => hr ▸ hfd, h.nonblocking.use rfl rfl fun _ hr => hr ▸ hmode, ?_⟩
  intro fd' address' result' hmem
  rcases List.mem_cons.mp hmem with heq | hmem
  · cases heq
    exact hnames
  · exact h.names fd' address' result' hmem

end Asked

/-! ### `connect_socket` -/

theorem ensures_ask {α : Type} {answer : List SysEvent → α} {event : α → SysEvent} {log : List SysEvent}
    {Q : α → List SysEvent → Prop} (h : ∀ a, Q a (event a :: log)) : Ensures (ask answer event) log Q := by
  rw [ask, ensures_bind, ensures_get, ensures_bind]
  exact ensures_modify.mpr (ensures_pure.mpr (h _))

theorem or_oNonblock_and (flags : Int32) : (flags ||| oNonblock) &&& oNonblock ≠ 0 := by
  have habsorb : (flags ||| oNonblock) &&& oNonblock = oNonblock := by
    refine Int32.toBitVec_inj.mp (BitVec.eq_of_getLsbD_eq fun i _ => ?_)
    rw [Int32.toBitVec_and, Int32.toBitVec_or, BitVec.getLsbD_and, BitVec.getLsbD_or]
    cases oNonblock.toBitVec.getLsbD i <;> simp
  rw [habsorb]
  decide

/-- The address that is built for a name is one of it. -/
theorem createSockaddrUn_names {socketName : CString} (hname : socketName.strlen ≤ p.sizeMax) {s t : SockState}
    {socklen : ℤ} (hrun : createSockaddrUn host.layout host.order socketName host.addr s = .ok (socklen, t))
    (hlen : ¬socklen < 0) : host.Names socketName (socklen, t.mem.load host.addr socklen.toNat) := by
  have hres : socklen ≠ -1 := by omega
  obtain ⟨rfl, hmem⟩ := createSockaddrUn_accepted hname host.addr_ne hrun hres
  refine ⟨by push_cast; ring, ?_⟩
  rw [Int.toNat_natCast, hmem, Memory.load_add, List.drop_left' (Memory.load_length _ _ _)]
  exact built_path _ _ _ _ _

/-- It returns a descriptor that it opened, or has closed what it opened. -/
theorem connectSocket_asked {socketName : CString} (hname : socketName.strlen ≤ p.sizeMax) {log : List SysEvent}
    {R : Set Resource} (h : Asked host socketName log R ∅) (hfresh : ∀ fd, .descriptor fd ∉ R) (htable : .table ∈ R) :
    Ensures (connectSocket host socketName) log fun fd log' =>
      fd = -1 ∧ (∃ B, Asked host socketName log' R B) ∨
        0 ≤ fd.toInt ∧ Asked host socketName log' (insert (.descriptor fd) R) {fd} := by
  unfold connectSocket
  rw [ensures_bind, ensures_lift]
  rintro ⟨socklen, addr⟩ hrun
  refine ensures_ite.mpr ⟨fun _ => ensures_pure.mpr (.inl ⟨rfl, ∅, h⟩), fun hlen => ?_⟩
  rw [ensures_bind]
  refine ensures_ask fun fd => ensures_ite.mpr ⟨fun hfd => ?_, fun hfd => ?_⟩
  · exact ensures_pure.mpr (.inl ⟨rfl, ∅, h.refused _ (if_neg (Int.not_le.mpr hfd)) (.inl ⟨fd, rfl⟩)⟩)
  have hfd : 0 ≤ fd.toInt := Int.not_lt.mp hfd
  have hopen := h.got (.socket fd) (if_pos hfd) (hfresh fd)
  have hmem : Resource.descriptor fd ∈ insert (Resource.descriptor fd) R := Set.mem_insert _ _
  have hclose {log : List SysEvent} {B : Set Int32}
      (hasked : Asked host socketName log (insert (.descriptor fd) R) B) :
      Ensures (closeSocket fd) log fun fd' log' => fd' = -1 ∧ (∃ B, Asked host socketName log' R B) ∨
        0 ≤ fd'.toInt ∧ Asked host socketName log' (insert (.descriptor fd') R) {fd'} := by
    rw [closeSocket, ensures_bind]
    have hclosed := hasked.close hmem
    rw [Set.insert_sdiff_self_of_notMem (hfresh fd)] at hclosed
    exact ensures_modify.mpr (ensures_pure.mpr (.inl ⟨rfl, B, hclosed⟩))
  rw [ensures_bind]
  refine ensures_ask fun res => ?_
  have hgetFd := hopen.fcntl .getFd nofun hmem res
  refine ensures_ite.mpr ⟨fun _ => hclose hgetFd, fun _ => ?_⟩
  rw [ensures_bind]
  refine ensures_ask fun res' => ?_
  have hsetFd := hgetFd.fcntl (.setFd (res ||| oCloexec)) nofun hmem res'
  refine ensures_ite.mpr ⟨fun _ => hclose hsetFd, fun _ => ?_⟩
  rw [ensures_bind]
  refine ensures_ask fun res => ?_
  have hgetFl := hsetFd.fcntl .getFl nofun hmem res
  refine ensures_ite.mpr ⟨fun _ => hclose hgetFl, fun _ => ?_⟩
  rw [ensures_bind]
  refine ensures_ask fun res' => ensures_ite.mpr ⟨fun hres => hclose (hgetFl.setFl_refused hmem hres), fun hres => ?_⟩
  have hsetFl := hgetFl.setFl hmem (Int.not_lt.mp hres) (or_oNonblock_and res) (Set.notMem_empty fd)
  have hmode : fd ∈ insert fd (∅ : Set Int32) := Set.mem_insert _ _
  rw [ensures_bind]
  refine ensures_ask fun res => ?_
  have hconnect := hsetFl.connect hmem hmode (createSockaddrUn_names hname hrun hlen) res
  refine ensures_ite.mpr ⟨fun _ => hclose hconnect, fun _ => ?_⟩
  rw [ensures_bind]
  refine ensures_ask fun res => ?_
  have hadd := hconnect.io (.addFdEvents fd (epollOut ||| epollErr) res) nofun
    (fun r hr => ?_) nofun
  · refine ensures_ite.mpr ⟨fun _ => hclose hadd, fun _ => ensures_pure.mpr (.inr ⟨hfd, ?_⟩)⟩
    rwa [insert_empty_eq] at hadd
  cases r with
  | descriptor fd' =>
    obtain ⟨heq, -⟩ := hr
    cases heq
    exact hmem
  | table => exact Set.mem_insert_of_mem _ htable
  | taskQueue => exact hr.elim

/-! ### `main` -/

/-- The loop is entered with the connection request pending. -/
structure Process.Entered (host : Host p) (socketName : CString) (s : Process) : Prop where
  fd : 0 ≤ s.fd.toInt
  asked : Asked host socketName s.opening {.descriptor s.fd, .table, .taskQueue} {s.fd}
  daemon : s.daemon = .zero
  closing : s.closing = []
  epollFuncs : s.epollFuncs = some .connecting
  awake : s.awake = false
  phase : s.phase = .looping

/-- The initialization failed, and the process exits without an entry into the loop. The
wake lock is not released. -/
structure Process.Failed (host : Host p) (socketName : CString) (s : Process) : Prop where
  asked : ∃ B, Asked host socketName s.opening ∅ B
  daemon : s.daemon = .zero
  closing : s.closing = []
  awake : s.awake = true
  phase : s.phase = .exited false

variable {socketName : CString} {s : Process}

theorem initIo_spec (hname : socketName.strlen ≤ p.sizeMax) (h : Asked host socketName s.opening {.taskQueue} ∅) :
    Ensures (initIo host socketName) s fun res t => t.closing = s.closing ∧ t.awake = s.awake ∧ t.phase = s.phase ∧
      (t.daemon = s.daemon ∨ t.daemon = { s.daemon with io := { IoState.initializer with log := s.daemon.io.log } }) ∧
      (res = -1 ∧ (∃ B, Asked host socketName t.opening {.taskQueue} B) ∨
        res = 0 ∧ 0 ≤ t.fd.toInt ∧ t.epollFuncs = some .connecting ∧
          Asked host socketName t.opening {.descriptor t.fd, .table, .taskQueue} {t.fd}) := by
  unfold initIo
  rw [ensures_bind, ensures_zoom]
  refine ensures_ask fun ok => ensures_ite.mpr ⟨fun hok => ?_, fun hok => ?_⟩
  · have hrefused := h.refused (.calloc ok) (if_neg hok) (.inr (.inl ⟨ok, rfl⟩))
    exact ensures_pure.mpr ⟨rfl, rfl, rfl, .inl rfl, .inl ⟨rfl, ∅, hrefused⟩⟩
  have htable := h.got (.calloc ok) (if_pos (not_not.mp hok)) (r := .table) nofun
  rw [ensures_bind]
  refine ensures_modify.mpr ?_
  rw [ensures_bind, ensures_zoom]
  refine (connectSocket_asked hname htable (fun fd => by simp) (Set.mem_insert _ _)).mono fun fd log hlog => ?_
  refine ensures_ite.mpr ⟨fun hneg => ?_, fun hpos => ?_⟩
  · obtain ⟨-, B, hasked⟩ : fd = -1 ∧ ∃ B, Asked host socketName log {.table, .taskQueue} B := by
      rcases hlog with hlog | ⟨hfd, -⟩
      · exact hlog
      · exact absurd hneg (Int.not_lt.mpr hfd)
    have hfree := hasked.free (Set.mem_insert _ _)
    rw [Set.insert_sdiff_self_of_notMem (by simp)] at hfree
    rw [ensures_bind, ensures_zoom]
    exact ensures_modify.mpr (ensures_pure.mpr ⟨rfl, rfl, rfl, .inr rfl, .inl ⟨rfl, B, hfree⟩⟩)
  · obtain ⟨hfd, hasked⟩ : 0 ≤ fd.toInt ∧
        Asked host socketName log {.descriptor fd, .table, .taskQueue} {fd} := by
      rcases hlog with ⟨rfl, -⟩ | hlog
      · exact absurd (by decide) hpos
      · exact hlog
    rw [ensures_bind]
    exact ensures_modify.mpr (ensures_pure.mpr ⟨rfl, rfl, rfl, .inr rfl, .inr ⟨rfl, hfd, rfl, hasked⟩⟩)

theorem init_spec {options : Options} (hname : options.socketName.strlen ≤ p.sizeMax) :
    Ensures (init host options) { Process.zero with awake := true } fun result t =>
      t.closing = [] ∧ t.phase = .starting ∧ t.daemon = .zero ∧
      (result ≠ some .ok ∧ t.awake = true ∧ (∃ B, Asked host options.socketName t.opening ∅ B) ∨
        result = some .ok ∧ t.awake = false ∧ 0 ≤ t.fd.toInt ∧ t.epollFuncs = some .connecting ∧
          Asked host options.socketName t.opening {.descriptor t.fd, .table, .taskQueue} {t.fd}) := by
  unfold init
  rw [ensures_bind, ensures_zoom]
  refine ensures_ask fun queue => ensures_ite.mpr ⟨fun hneg => ?_, fun hpos => ?_⟩
  · have hrefused := (asked_nil host options.socketName).refused (.initTaskQueue queue)
      (if_neg (Int.not_le.mpr hneg)) (.inr (.inr ⟨queue, rfl⟩))
    exact ensures_pure.mpr ⟨rfl, rfl, rfl, .inl ⟨nofun, rfl, ∅, hrefused⟩⟩
  have hqueue := (asked_nil host options.socketName).got (.initTaskQueue queue)
    (if_pos (Int.not_lt.mp hpos)) (Set.notMem_empty _)
  rw [insert_empty_eq] at hqueue
  rw [ensures_bind]
  refine (initIo_spec hname hqueue).mono fun res t ht => ?_
  obtain ⟨hclosing, hawake, hphase, hdaemon, ht⟩ := ht
  have hdaemon : t.daemon = .zero := hdaemon.elim id id
  refine ensures_ite.mpr ⟨fun hneg => ?_, fun hpos => ?_⟩
  · obtain ⟨-, B, hasked⟩ : res = -1 ∧ ∃ B, Asked host options.socketName t.opening {.taskQueue} B := by
      rcases ht with ht | ⟨rfl, -⟩
      · exact ht
      · exact absurd hneg (by decide)
    have hgiven := hasked.uninitTaskQueue rfl
    rw [Set.sdiff_self] at hgiven
    rw [ensures_bind, ensures_zoom]
    exact ensures_modify.mpr (ensures_pure.mpr ⟨hclosing, hphase, hdaemon, .inl ⟨nofun, hawake, B, hgiven⟩⟩)
  · obtain ⟨-, hfd, htable, hasked⟩ := ht.resolve_left fun ⟨hres, _⟩ => hpos (hres ▸ by decide)
    rw [ensures_bind]
    exact ensures_modify.mpr (ensures_pure.mpr ⟨hclosing, hphase, hdaemon, .inr ⟨rfl, rfl, hfd, htable, hasked⟩⟩)

/-! ### Every start -/

/-- The options on a command line. -/
def givenOptions (argv : List CString) : Options := (parseOpts argv ⟨defaultSocketName⟩).2

/-- The name to connect to is no longer than what is on the command line, or the default. -/
theorem givenOptions_strlen_le {argv : List CString} (hargv : ∀ arg ∈ argv, arg.strlen ≤ p.sizeMax)
    (hok : (parseOpts argv ⟨defaultSocketName⟩).1 = 0) : (givenOptions argv).socketName.strlen ≤ p.sizeMax := by
  obtain ⟨names, rest, haddresses, -, hnamed⟩ := ((parseOpts_result argv ⟨defaultSocketName⟩).1 (givenOptions argv)).mp
    (Prod.ext hok rfl)
  have hdefault : defaultSocketName.strlen ≤ p.sizeMax := by
    have hle : 2 ^ 32 ≤ p.sizeMax + 1 := by
      rw [p.sizeMax_succ]
      rcases p.sizeofPtr_eq with h | h
      all_goals simp [h]
    have hlen : defaultSocketName.strlen = 3 := rfl
    omega
  rw [hnamed, Options.named]
  refine List.foldlRecOn names (motive := fun options : Options => options.socketName.strlen ≤ p.sizeMax) _ hdefault
    fun options _ name hname => ?_
  obtain ⟨arg, harg, hle⟩ := haddresses.strlen_le name hname
  exact hle.trans (hargv arg harg)

theorem main_exits {argv : List CString} (hok : (parseOpts argv ⟨defaultSocketName⟩).1 ≠ 0) (s : Process) :
    main host argv s = .ok ((), { s with
      awake := false, phase := .exited (0 < (parseOpts argv ⟨defaultSocketName⟩).1.toInt) }) := by
  unfold main
  rw [modify_bind_apply]
  cases hparse : parseOpts argv ⟨defaultSocketName⟩ with
  | mk res options =>
    rw [hparse] at hok
    dsimp only at hok ⊢
    rw [if_pos hok]
    rfl

theorem main_inits {argv : List CString} (hok : (parseOpts argv ⟨defaultSocketName⟩).1 = 0) (s : Process) :
    main host argv s = (do
      let result ← init host (givenOptions argv)
      Exec.modify fun s => { s with phase := if result = some IoResult.ok then .looping else .exited false })
        { s with awake := true } := by
  unfold main givenOptions
  rw [modify_bind_apply]
  cases hparse : parseOpts argv ⟨defaultSocketName⟩ with
  | mk res options =>
    rw [hparse] at hok
    dsimp only at hok ⊢
    rw [if_neg (not_not.mpr hok)]

/-- The process ends with its options, fails to initialize, or enters the loop. -/
theorem Process.Started.cases {argv : List CString} (hargv : ∀ arg ∈ argv, arg.strlen ≤ p.sizeMax)
    (h : Process.Started host argv s) :
    (parseOpts argv ⟨defaultSocketName⟩).1 ≠ 0 ∧
        s = { Process.zero with phase := .exited (0 < (parseOpts argv ⟨defaultSocketName⟩).1.toInt) } ∨
      (parseOpts argv ⟨defaultSocketName⟩).1 = 0 ∧
        (Process.Failed host (givenOptions argv).socketName s ∨
          Process.Entered host (givenOptions argv).socketName s) := by
  have hname := givenOptions_strlen_le hargv
  unfold Process.Started at h
  by_cases hok : (parseOpts argv ⟨defaultSocketName⟩).1 = 0
  · refine .inr ⟨hok, ?_⟩
    rw [main_inits hok] at h
    obtain ⟨result, t, hinit, hphase⟩ := bind_eq_ok.mp h
    cases hphase
    obtain ⟨hclosing, -, hdaemon, ht⟩ := init_spec (hname hok) result t hinit
    rcases ht with ⟨hresult, hawake, hasked⟩ | ⟨rfl, hawake, hfd, htable, hasked⟩
    · exact .inl ⟨hasked, hdaemon, hclosing, hawake, if_neg hresult⟩
    · exact .inr ⟨hfd, hasked, hdaemon, hclosing, htable, hawake, rfl⟩
  · refine .inl ⟨hok, ?_⟩
    rw [main_exits hok] at h
    cases h
    rfl

theorem avoids_ask {α : Type} (e : Fault) (answer : List SysEvent → α) (event : α → SysEvent) :
    Avoids e (ask answer event) :=
  (avoids_get e).bind fun _ => Avoids.bind (avoids_modify e _) fun _ => avoids_pure e _

theorem avoids_connectSocket (e : Fault) (hname : socketName.strlen ≤ p.sizeMax) :
    Avoids e (connectSocket host socketName) := by
  have hclose (fd : Int32) : Avoids e (closeSocket fd) := Avoids.bind (avoids_modify e _) fun _ => avoids_pure e _
  refine Avoids.bind (avoids_lift ?_) fun r => ?_
  · obtain ⟨res, t, hrun, -⟩ := createSockaddrUn_builds (o := host.order) (l := host.layout) hname host.addr_ne
      ⟨host.stack, []⟩
    rw [hrun]
    exact nofun
  refine .ite (avoids_pure e _) ((avoids_ask e _ _).bind fun fd => .ite (avoids_pure e _) ?_)
  refine (avoids_ask e _ _).bind fun _ => .ite (hclose fd) ((avoids_ask e _ _).bind fun _ => .ite (hclose fd) ?_)
  refine (avoids_ask e _ _).bind fun _ => .ite (hclose fd) ((avoids_ask e _ _).bind fun _ => .ite (hclose fd) ?_)
  refine (avoids_ask e _ _).bind fun _ => .ite (hclose fd) ((avoids_ask e _ _).bind fun _ => .ite (hclose fd) ?_)
  exact avoids_pure e _

/-- The process never crashes on the way to the loop. -/
theorem Process.exists_started {argv : List CString} (hargv : ∀ arg ∈ argv, arg.strlen ≤ p.sizeMax) :
    ∃ s, Process.Started host argv s := by
  have hname := givenOptions_strlen_le hargv
  unfold Process.Started
  by_cases hok : (parseOpts argv ⟨defaultSocketName⟩).1 = 0
  · have havoids (e : Fault) : Avoids e (init host (givenOptions argv)) := by
      refine (avoids_ask e _ _).zoom.bind fun _ => .ite (avoids_pure e _) (Avoids.bind ?_ fun _ => ?_)
      · refine (avoids_ask e _ _).zoom.bind fun _ => .ite (avoids_pure e _) ?_
        refine Avoids.bind (avoids_modify e _) fun _ => ?_
        refine (avoids_connectSocket e (hname hok)).zoom.bind fun _ => .ite ?_ ?_
        · exact (avoids_modify e _).zoom.bind fun _ => avoids_pure e _
        · exact Avoids.bind (avoids_modify e _) fun _ => avoids_pure e _
      · refine .ite ((avoids_modify e _).zoom.bind fun _ => avoids_pure e _) ?_
        exact Avoids.bind (avoids_modify e _) fun _ => avoids_pure e _
    obtain ⟨result, t, hrun⟩ := exists_ok_of_avoids havoids { Process.zero with awake := true }
    exact ⟨_, (main_inits hok _).trans (bind_ok hrun _)⟩
  · exact ⟨_, main_exits hok _⟩

end

end Tvd
