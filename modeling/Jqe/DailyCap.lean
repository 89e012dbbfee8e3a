import Jqe.CapPhase
import Jqe.MainSystem
/-!
# DailyCap — cycles of any number of processes over one guard file

Any number of cycles, interleaved at their requests, share the counters of one file and one store; everything else is
answered in any way, and the store is changed by others at any time.  The log of the world keeps what every request
meant for the cap.
-/
namespace Jqe

open Coro Prog List

structure CapEntry where
  run : Nat
  act : CapAct
  went : Bool
  /-- for a start: the UTC day on the guard's clock, and whether its transaction was committed -/
  day : Int
  counted : Bool
  reservation : String → Option Reservation

namespace CapEntry

def consumes (e : CapEntry) : Bool :=
  match e.act with
  | .consume _ => true
  | _ => false

def claims (e : CapEntry) : Bool := e.act == .claim

def orders (e : CapEntry) : Bool :=
  match e.act with
  | .order _ => true
  | _ => false

def startsOn (key : String × String) (day : Int) (e : CapEntry) : Bool := e.act == .consume key && e.day == day

end CapEntry

open CapEntry (claims consumes orders startsOn)

structure CapWorld where
  guard : GuardFile
  store : Store
  log : List CapEntry

namespace CapWorld

def runLog (w : CapWorld) (n : Nat) : List CapEntry := w.log.filter (·.run == n)

def countedOn (w : CapWorld) (key : String × String) (day : Int) : List CapEntry :=
  w.log.filter fun e => e.startsOn key day && e.counted

/-- The orders of the cycles whose start was asked for a counter. -/
def ordersOn (w : CapWorld) (key : String × String) (day : Int) : List CapEntry :=
  w.log.filter fun e => e.orders && w.log.any fun b => b.run == e.run && b.startsOn key day

end CapWorld

structure CapRun where
  number : Nat
  settings : CycleSettings

variable [CaseMap]

def CapRun.prog (i : CapRun) : RunProg CycleExecutionResult := MainRun.run i.settings

inductive GuardExec (limit : Nat) (scope instrument : String) (now : Int) (f : GuardFile) :
    Except PyExc Unit → GuardFile → Bool → Prop
  | done {f' : GuardFile} (h : f.consume limit scope instrument now = .ok f') :
      GuardExec limit scope instrument now f (.ok ()) f' true
  | refused {e : PyExc} (h : f.consume limit scope instrument now = .error e) :
      GuardExec limit scope instrument now f (.error e) f false
  | failed (e : PyExc) : GuardExec limit scope instrument now f (.error e) f false
  | lost (e : PyExc) {f' : GuardFile} (h : f.consume limit scope instrument now = .ok f') :
      GuardExec limit scope instrument now f (.error e) f' true

namespace CapWorld

def record (w : CapWorld) (i : CapRun) (r : RunReq) (ans : Except PyExc r.Ans) (day : Int) (counted : Bool) :
    CapWorld :=
  { w with log := ⟨i.number, r.act, r.went ans, day, counted, w.store.reservation⟩ :: w.log }

end CapWorld

inductive CapExec (limit : Nat) (w : CapWorld) (i : CapRun) : (r : RunReq) → Except PyExc r.Ans → CapWorld → Prop
  | consume (scope instrument : String) (now : Int) {ans : Except PyExc Unit} {f' : GuardFile} {counted : Bool}
      (h : GuardExec limit scope instrument now w.guard ans f' counted) :
      CapExec limit w i (.consume scope instrument) ans
        ({ w with guard := f' }.record i (.consume scope instrument) ans (utcDay now) counted)
  | store (p : PlannedOrder) (c : SubmitCall) (op : StoreOp) {ans : Except PyExc op.Ans} {s' : Store}
      (h : StoreExec True w.store op ans s') :
      CapExec limit w i (.exec p c (.store op)) ans
        ({ w with store := s' }.record i (.exec p c (.store op)) ans 0 false)
  | asked (r : RunReq) (ans : Except PyExc r.Ans) (hc : ∀ scope instrument, r ≠ .consume scope instrument)
      (hs : ∀ p c op, r ≠ .exec p c (.store op)) : CapExec limit w i r ans (w.record i r ans 0 false)

/-- **Cycles over one guard file**, from its creation on. -/
def capSystem (limit : Nat) : System RunReq RunReq.Ans PyExc CapWorld CapRun where
  init w := w.guard = .empty ∧ w.log = []
  admits _ := True
  exec := CapExec limit
  tick w w' := ∃ s', w' = { w with store := s' }

abbrev CapConfig := Config RunReq RunReq.Ans PyExc CycleExecutionResult CapWorld CapRun

/-- Every cycle carries the number it runs under. -/
def CapConfig.Numbered (c : CapConfig) : Prop := ∀ n i p, c.runs n = some (i, p) → i.number = n

structure DailyCap (limit : Nat) (c : CapConfig) : Prop where
  /-- the orders of a day are within its counter -/
  orders_le : ∀ key day, (c.world.ordersOn key day).length ≤ c.world.guard.starts key day
  /-- every order follows a start of its own cycle, for its own instrument, that returned -/
  order_started : ∀ e ∈ c.world.log, ∀ symbol, e.act = .order symbol →
    ∃ b, [e, b].Sublist c.world.log ∧ b.run = e.run ∧ b.went = true ∧
      ∃ key : String × String, b.act = .consume key ∧ key.2 = normalizeSymbol symbol
  starts_eq : ∀ key day, c.world.guard.starts key day = (c.world.countedOn key day).length
  returned : ∀ b ∈ c.world.log, ∀ key, b.act = .consume key → b.went = true → b ∈ c.world.countedOn key b.day
  starts_le : ∀ key day, c.world.guard.starts key day ≤ limit
  /-- a cycle whose start raised claims nothing and sends nothing -/
  refused : ∀ b ∈ c.world.log, b.consumes = true → b.went = false →
    ∀ e ∈ c.world.log, e.run = b.run → e.claims = false ∧ e.orders = false
  /-- and releases its reservation before it ends -/
  released : ∀ b ∈ c.world.log, b.consumes = true → b.went = false →
    ∀ i out, c.runs b.run = some (i, some (Prog.ofExcept out)) →
      ∃ r a scope owner, [r, b, a].Sublist c.world.log ∧ a.run = b.run ∧ r.run = b.run ∧
        a.act = .acquire scope owner ∧ a.went = true ∧ r.act = .release scope owner ∧
        (r.went = true → ∀ row, r.reservation scope = some row → row.ownerId ≠ owner)

/-! ## The log of one cycle -/

/-- **What a mark says of the log of its cycle**: at most one start, and one order on a start that returned. -/
def CapMark.Fits (l : List CapEntry) : CapMark → Prop
  | .fresh => l.filter consumes = [] ∧ l.filter claims = [] ∧ l.filter orders = []
  | .refused => (∃ b, l.filter consumes = [b] ∧ b.went = false) ∧ l.filter claims = [] ∧
      l.filter orders = []
  | .passed key => (∃ b, l.filter consumes = [b] ∧ b.act = .consume key ∧ b.went = true) ∧
      l.filter claims = [] ∧ l.filter orders = []
  | .claimed key => (∃ b, l.filter consumes = [b] ∧ b.act = .consume key ∧ b.went = true) ∧
      l.filter orders = []
  | .sent key => ∃ b o symbol, l.filter consumes = [b] ∧ b.act = .consume key ∧ b.went = true ∧
      l.filter orders = [o] ∧ o.act = .order symbol ∧ key.2 = normalizeSymbol symbol ∧ [o, b].Sublist l

/-- A reservation in the log: acquired, and before every start. -/
def HeldBefore (l : List CapEntry) (scope owner : String) (a : CapEntry) : Prop :=
  a ∈ l ∧ a.act = .acquire scope owner ∧ a.went = true ∧ ∀ b ∈ l.filter consumes, [b, a].Sublist l

structure CapFits (φ : CapPhase) (l : List CapEntry) : Prop where
  mark : φ.mark.Fits l
  held : ∀ scope owner, φ.held = some (scope, owner) → ∃ a, HeldBefore l scope owner a
  released : φ.held = none → ∀ b ∈ l.filter consumes, ∃ r a scope owner, [r, b, a].Sublist l ∧
    a.act = .acquire scope owner ∧ a.went = true ∧ r.act = .release scope owner

section

variable {l : List CapEntry} {e : CapEntry}

omit [CaseMap] in
theorem filter_skip {p : CapEntry → Bool} (h : p e = false) : (e :: l).filter p = l.filter p :=
  filter_cons_of_neg (by rw [h]; decide)

omit [CaseMap] in
theorem HeldBefore.cons {scope owner : String} {a : CapEntry} (h : HeldBefore l scope owner a)
    (he : e.consumes = false) : HeldBefore (e :: l) scope owner a := by
  obtain ⟨hmem, hact, hwent, hbefore⟩ := h
  refine ⟨mem_cons_of_mem _ hmem, hact, hwent, fun b hb => ?_⟩
  rw [filter_skip he] at hb
  exact (hbefore b hb).cons _

omit [CaseMap] in
theorem HeldBefore.start {scope owner : String} {a : CapEntry} (h : HeldBefore l scope owner a)
    (hnone : l.filter consumes = []) (he : e.consumes = true) : HeldBefore (e :: l) scope owner a := by
  obtain ⟨hmem, hact, hwent, _⟩ := h
  refine ⟨mem_cons_of_mem _ hmem, hact, hwent, fun b hb => ?_⟩
  rw [filter_cons_of_pos he, hnone, mem_singleton] at hb
  subst hb
  exact (singleton_sublist.2 hmem).cons_cons _

theorem CapMark.Fits.cons {mark : CapMark} (h : mark.Fits l) (hc : e.consumes = false) (hl : e.claims = false)
    (ho : e.orders = false) : mark.Fits (e :: l) := by
  cases mark with
  | sent key =>
    obtain ⟨b, o, symbol, hb, hact, hwent, horders, hsymbol, hkey, hsub⟩ := h
    exact ⟨b, o, symbol, (filter_skip hc).trans hb, hact, hwent, (filter_skip ho).trans horders, hsymbol, hkey,
      hsub.cons _⟩
  | _ =>
    unfold CapMark.Fits at h ⊢
    simp only [filter_skip hc, filter_skip hl, filter_skip ho]
    exact h

theorem CapFits.mark_next {φ : CapPhase} (h : CapFits φ l) {mark : CapMark} (hc : e.consumes = false)
    (hmark : mark.Fits (e :: l)) : CapFits ⟨φ.held, mark⟩ (e :: l) := by
  refine ⟨hmark, fun scope owner hheld => ?_, fun hnone b hb => ?_⟩
  · obtain ⟨a, ha⟩ := h.held scope owner hheld
    exact ⟨a, ha.cons hc⟩
  · rw [filter_skip hc] at hb
    obtain ⟨r, a, scope, owner, hsub, hrest⟩ := h.released hnone b hb
    exact ⟨r, a, scope, owner, hsub.cons _, hrest⟩

theorem CapFits.idle {φ : CapPhase} (h : CapFits φ l) (hc : e.consumes = false) (hl : e.claims = false)
    (ho : e.orders = false) : CapFits φ (e :: l) :=
  h.mark_next hc (h.mark.cons hc hl ho)

theorem CapFits.next {φ : CapPhase} (h : CapFits φ l) (ha : φ.Allows e.act) :
    CapFits (φ.next e.act e.went) (e :: l) := by
  obtain ⟨held, mark⟩ := φ
  obtain ⟨run, act, went, day, counted, reservation⟩ := e
  cases act with
  | other => exact h.idle rfl rfl rfl
  | acquire scope owner =>
    cases went with
    | false => exact h.idle rfl rfl rfl
    | true =>
      obtain ⟨hmark, _⟩ := ha
      cases hmark
      -- no start was made before
      refine ⟨h.mark.cons rfl rfl rfl, fun scope' owner' hheld => ?_, fun hnone => by cases hnone⟩
      cases hheld
      refine ⟨_, mem_cons_self, rfl, rfl, fun b hb => ?_⟩
      rw [filter_skip rfl, h.mark.1] at hb
      cases hb
  | release scope owner =>
    change held = some (scope, owner) at ha
    refine ⟨h.mark.cons rfl rfl rfl, fun scope' owner' hheld => (by cases hheld), fun _ b hb => ?_⟩
    rw [filter_skip rfl] at hb
    obtain ⟨a, _, hact, hwent, hbefore⟩ := h.held scope owner ha
    exact ⟨_, a, scope, owner, (hbefore b hb).cons_cons _, hact, hwent, rfl⟩
  | consume key =>
    obtain ⟨hmark, hheld⟩ := ha
    cases hmark
    obtain ⟨hc, hl, ho⟩ := h.mark
    obtain ⟨⟨scope, owner⟩, hso⟩ := Option.isSome_iff_exists.1 hheld
    change held = some (scope, owner) at hso
    subst hso
    have hcs : ∀ e : CapEntry, e.consumes = true → (e :: l).filter consumes = [e] := fun e he => by
      rw [filter_cons_of_pos he, hc]
    have started : ∀ scope' owner', some (scope, owner) = some (scope', owner') →
        ∃ a, HeldBefore (⟨run, .consume key, went, day, counted, reservation⟩ :: l) scope' owner' a := by
      intro scope' owner' heq
      obtain ⟨a, hbefore⟩ := h.held scope' owner' heq
      exact ⟨a, hbefore.start hc rfl⟩
    cases went with
    | false =>
      exact ⟨⟨⟨_, hcs _ rfl, rfl⟩, (filter_skip rfl).trans hl, (filter_skip rfl).trans ho⟩, started,
        fun hnone => by cases hnone⟩
    | true =>
      exact ⟨⟨⟨_, hcs _ rfl, rfl, rfl⟩, (filter_skip rfl).trans hl, (filter_skip rfl).trans ho⟩, started,
        fun hnone => by cases hnone⟩
  | claim =>
    obtain ⟨key, hmark⟩ := ha
    cases hmark
    obtain ⟨⟨b, hb, hstart⟩, _, ho⟩ := h.mark
    exact h.mark_next rfl ⟨⟨b, (filter_skip rfl).trans hb, hstart⟩, (filter_skip rfl).trans ho⟩
  | order symbol =>
    obtain ⟨key, hmark, hkey⟩ := ha
    cases hmark
    obtain ⟨⟨b, hb, hact, hwent⟩, ho⟩ := h.mark
    have hmem : b ∈ l := by
      have hb' : b ∈ l.filter consumes := by
        rw [hb]
        exact mem_singleton_self b
      exact mem_of_mem_filter hb'
    refine h.mark_next rfl ⟨b, _, symbol, (filter_skip rfl).trans hb, hact, hwent, ?_, rfl, hkey,
      (singleton_sublist.2 hmem).cons_cons _⟩
    rw [filter_cons_of_pos rfl, ho]

theorem CapFits.order {φ : CapPhase} (h : CapFits φ l) (he : e ∈ l) {symbol : String} (ho : e.act = .order symbol) :
    ∃ b key, l.filter consumes = [b] ∧ b.act = .consume key ∧ b.went = true ∧
      key.2 = normalizeSymbol symbol ∧ [e, b].Sublist l ∧ l.filter orders = [e] := by
  have hmem : e ∈ l.filter orders := by
    refine mem_filter.2 ⟨he, ?_⟩
    unfold orders
    rw [ho]
  have hno : l.filter orders ≠ [] := ne_nil_of_mem hmem
  obtain ⟨held, mark⟩ := φ
  cases mark with
  | fresh => exact absurd h.mark.2.2 hno
  | refused => exact absurd h.mark.2.2 hno
  | passed key => exact absurd h.mark.2.2 hno
  | claimed key => exact absurd h.mark.2 hno
  | sent key =>
    obtain ⟨b, o, symbol', hb, hact, hwent, horders, hsymbol, hkey, hsub⟩ := h.mark
    rw [horders, mem_singleton] at hmem
    subst hmem
    rw [ho] at hsymbol
    cases hsymbol
    exact ⟨b, key, hb, hact, hwent, hkey, hsub, horders⟩

theorem CapFits.refused {φ : CapPhase} (h : CapFits φ l) (he : e ∈ l) (hc : e.consumes = true) (hw : e.went = false) :
    l.filter claims = [] ∧ l.filter orders = [] := by
  have hmem : e ∈ l.filter consumes := mem_filter.2 ⟨he, hc⟩
  have absurd_went : ∀ {b}, l.filter consumes = [b] → b.went = true → False := by
    intro b hb hwent
    rw [hb, mem_singleton] at hmem
    rw [hmem, hwent] at hw
    cases hw
  obtain ⟨held, mark⟩ := φ
  cases mark with
  | fresh => exact absurd h.mark.1 (ne_nil_of_mem hmem)
  | refused => exact ⟨h.mark.2.1, h.mark.2.2⟩
  | passed key =>
    obtain ⟨⟨b, hb, _, hwent⟩, _⟩ := h.mark
    exact (absurd_went hb hwent).elim
  | claimed key =>
    obtain ⟨⟨b, hb, _, hwent⟩, _⟩ := h.mark
    exact (absurd_went hb hwent).elim
  | sent key =>
    obtain ⟨b, _, _, hb, _, hwent, _⟩ := h.mark
    exact (absurd_went hb hwent).elim

/-! ## Every run -/

abbrev CapGhost := Ghost CapWorld CapRun CapPhase

omit [CaseMap] in
theorem Store.releaseReservation_gone {s s' : Store} {scope owner : String} {b : Bool}
    (h : Store.releaseReservation scope owner s = .ok (b, s')) (row : Reservation)
    (hrow : s'.reservation scope = some row) : row.ownerId ≠ owner := by
  obtain ⟨_, _, h⟩ := bind_ok h
  split at h
  · cases h
    rw [reservation_dropReservation] at hrow
    cases hrow
  · rename_i hnone
    cases h
    rw [hrow] at hnone
    simpa using hnone

theorem CapExec.entry {limit : Nat} {w w' : CapWorld} {i : CapRun} {r : RunReq} {ans : Except PyExc r.Ans}
    (h : CapExec limit w i r ans w') :
    ∃ e, w'.log = e :: w.log ∧ e.run = i.number ∧ e.act = r.act ∧ e.went = r.went ans ∧
      (∀ scope owner, e.act = .release scope owner → e.went = true → ∀ row, e.reservation scope = some row →
        row.ownerId ≠ owner) ∧
      ((w'.guard = w.guard ∧ e.counted = false ∧ (e.consumes = true → e.went = false)) ∨
        ∃ key, e.act = .consume key ∧ e.counted = true ∧ w.guard.starts key e.day < limit ∧
          w'.guard = w.guard.put key e.day (w.guard.starts key e.day + 1)) := by
  cases h with
  | consume scope instrument now h =>
    refine ⟨_, rfl, rfl, rfl, rfl, fun _ _ heq => (by cases heq), ?_⟩
    cases h with
    | done h =>
      obtain ⟨hlt, rfl⟩ := GuardFile.consume_ok h
      exact .inr ⟨_, rfl, rfl, hlt, rfl⟩
    | lost e h =>
      obtain ⟨hlt, rfl⟩ := GuardFile.consume_ok h
      exact .inr ⟨_, rfl, rfl, hlt, rfl⟩
    | refused h => exact .inl ⟨rfl, rfl, fun _ => rfl⟩
    | failed e => exact .inl ⟨rfl, rfl, fun _ => rfl⟩
  | store p c op h =>
    refine ⟨_, rfl, rfl, rfl, rfl, fun scope owner heq hwent row hrow => ?_, .inl ⟨rfl, rfl, fun hc => ?_⟩⟩
    · cases op with
      | releaseReservation scope' owner' =>
        cases heq
        cases h with
        | committed now h => exact Store.releaseReservation_gone h row hrow
        | rolledBack e => cases hwent
        | lost now e h => cases hwent
      | _ => cases heq
    · cases op <;> cases hc
  | asked r ans hc hs =>
    refine ⟨_, rfl, rfl, rfl, rfl, fun scope owner heq => ?_, .inl ⟨rfl, rfl, fun hconsumes => ?_⟩⟩
    · cases r with
      | exec p c r =>
        cases r with
        | store op => exact absurd rfl (hs p c op)
        | _ => cases heq
      | _ => cases heq
    · cases r with
      | consume scope instrument => exact absurd rfl (hc scope instrument)
      | exec p c r =>
        cases r with
        | store op => exact absurd rfl (hs p c op)
        | _ => cases hconsumes
      | _ => cases hconsumes

structure CapInv (limit : Nat) (g : CapGhost) : Prop where
  known : ∀ e ∈ g.world.log, ∃ i φ, g.runs e.run = some (i, φ)
  fits : ∀ n i φ, g.runs n = some (i, φ) → CapFits φ (g.world.runLog n)
  starts_eq : ∀ key day, g.world.guard.starts key day = (g.world.countedOn key day).length
  starts_le : ∀ key day, g.world.guard.starts key day ≤ limit
  returned : ∀ b ∈ g.world.log, b.consumes = true → b.went = true → b.counted = true
  gone : ∀ e ∈ g.world.log, ∀ scope owner, e.act = .release scope owner → e.went = true →
    ∀ row, e.reservation scope = some row → row.ownerId ≠ owner

omit [CaseMap] in
theorem counted_cons {w w' : CapWorld} {e : CapEntry} {limit : Nat} (hlog : w'.log = e :: w.log)
    (heq : ∀ key day, w.guard.starts key day = (w.countedOn key day).length)
    (hle : ∀ key day, w.guard.starts key day ≤ limit)
    (h : (w'.guard = w.guard ∧ e.counted = false ∧ (e.consumes = true → e.went = false)) ∨
      ∃ key, e.act = .consume key ∧ e.counted = true ∧ w.guard.starts key e.day < limit ∧
        w'.guard = w.guard.put key e.day (w.guard.starts key e.day + 1)) (key : String × String) (day : Int) :
    w'.guard.starts key day = (w'.countedOn key day).length ∧ w'.guard.starts key day ≤ limit := by
  have hsame : (e.startsOn key day && e.counted) = false → w'.guard.starts key day = w.guard.starts key day →
      w'.guard.starts key day = (w'.countedOn key day).length ∧ w'.guard.starts key day ≤ limit := by
    intro hoff hstarts
    unfold CapWorld.countedOn
    rw [hlog, filter_skip hoff, hstarts]
    exact ⟨heq key day, hle key day⟩
  rcases h with ⟨hguard, hcounted, _⟩ | ⟨key', hact, hcounted, hlt, hguard⟩
  · refine hsame ?_ (by rw [hguard])
    rw [hcounted, Bool.and_false]
  · by_cases hk : key = key' ∧ day = e.day
    · obtain ⟨rfl, rfl⟩ := hk
      have hon : (e.startsOn key e.day && e.counted) = true := by
        unfold startsOn
        rw [hact, hcounted]
        simp
      unfold CapWorld.countedOn
      rw [hlog, filter_cons, if_pos hon, hguard, GuardFile.put_self, length_cons, heq key e.day]
      refine ⟨rfl, ?_⟩
      rw [← heq key e.day]
      omega
    · refine hsame ?_ (by rw [hguard, GuardFile.put_of_ne _ _ hk])
      unfold startsOn
      rw [hact, hcounted, Bool.and_true, Bool.and_eq_false_iff]
      by_cases hkey : key = key'
      · exact .inr (by simpa using fun hday => hk ⟨hkey, hday.symm⟩)
      · exact .inl (by simpa using fun h => hkey h.symm)

theorem CapInv.call {limit : Nat} {g : CapGhost} (h : CapInv limit g) {n : Nat} {i : CapRun} {φ : CapPhase}
    (hn : g.runs n = some (i, φ)) (hnumber : i.number = n) {r : RunReq} {ans : Except PyExc r.Ans} {w : CapWorld}
    (ha : φ.Allows r.act) (hx : CapExec limit g.world i r ans w) :
    CapInv limit ((g.setRun n i (φ.next r.act (r.went ans))).setWorld w) := by
  obtain ⟨e, hlog, hrun, hact, hwent, hgone, hguard⟩ := hx.entry
  have hen : e.run = n := hrun.trans hnumber
  have hcounted := counted_cons hlog h.starts_eq h.starts_le hguard
  refine ⟨fun e' he' => ?_, fun m j ψ hm => ?_, fun key day => (hcounted key day).1, fun key day => (hcounted key day).2,
    fun b hb hc hw => ?_, fun e' he' => ?_⟩
  · change e' ∈ w.log at he'
    rw [hlog] at he'
    by_cases hm : e'.run = n
    · rw [hm]
      exact ⟨i, _, Ghost.setRun_self _ _ _ _⟩
    · rcases mem_cons.1 he' with rfl | hold
      · exact absurd hen hm
      · obtain ⟨j, ψ, hψ⟩ := h.known e' hold
        exact ⟨j, ψ, (Ghost.setRun_of_ne _ _ _ hm).trans hψ⟩
  · change CapFits ψ (w.log.filter (·.run == m))
    rw [hlog]
    rcases Ghost.setRun_cases hm with ⟨rfl, _, rfl⟩ | ⟨hne, hold⟩
    · have hnext := (h.fits _ _ _ hn).next (e := e) (by rw [hact]; exact ha)
      rw [hact, hwent] at hnext
      rwa [filter_cons_of_pos (by simpa using hen)]
    · rw [filter_cons_of_neg (by simpa [hen] using fun heq => hne heq.symm)]
      exact h.fits m j ψ hold
  · change b ∈ w.log at hb
    rw [hlog] at hb
    rcases mem_cons.1 hb with rfl | hold
    · rcases hguard with ⟨_, _, hraised⟩ | ⟨_, _, hcommitted, _⟩
      · rw [hraised hc] at hw
        cases hw
      · exact hcommitted
    · exact h.returned b hold hc hw
  · change e' ∈ w.log at he'
    rw [hlog] at he'
    rcases mem_cons.1 he' with rfl | hold
    · exact hgone
    · exact h.gone e' hold

theorem capInv_reached (limit : Nat) {g : CapGhost} (hg : Reached (capSystem limit) (fun _ => capProtocol) .start g) :
    (∀ n i φ, g.runs n = some (i, φ) → i.number = n) → CapInv limit g := by
  refine Reached.invariant (I := fun g => (∀ n i φ, g.runs n = some (i, φ) → i.number = n) → CapInv limit g)
    (fun w hw _ => ?_) (fun g g' _ ih hs hnumbered => ?_) hg
  · obtain ⟨hguard, hlog⟩ := hw
    have hnil : ∀ e, e ∉ (Ghost.start w : CapGhost).world.log := by
      intro e he
      change e ∈ w.log at he
      rw [hlog] at he
      cases he
    refine ⟨fun e he => absurd he (hnil e), fun n i φ hn => (by cases hn), fun key day => ?_, fun key day => ?_,
      fun e he => absurd he (hnil e), fun e he => absurd he (hnil e)⟩
    · change w.guard.starts key day = (w.log.filter _).length
      rw [hguard, hlog]
      rfl
    · change w.guard.starts key day ≤ limit
      rw [hguard]
      exact Nat.zero_le _
  · cases hs with
    | spawn n i hn hi =>
      have hg := ih fun m j ψ hm => hnumbered m j ψ (by
        rw [Ghost.setRun_of_ne _ _ _ (by rintro rfl; rw [hn] at hm; cases hm)]
        exact hm)
      have hfresh : g.world.runLog n = [] := by
        refine filter_eq_nil_iff.2 fun e he hrun => ?_
        obtain ⟨j, ψ, hψ⟩ := hg.known e he
        rw [show e.run = n by simpa using hrun, hn] at hψ
        cases hψ
      refine ⟨fun e he => ?_, fun m j ψ hm => ?_, hg.starts_eq, hg.starts_le, hg.returned, hg.gone⟩
      · by_cases hm : e.run = n
        · rw [hm]
          exact ⟨i, _, Ghost.setRun_self _ _ _ _⟩
        · obtain ⟨j, ψ, hψ⟩ := hg.known e he
          exact ⟨j, ψ, (Ghost.setRun_of_ne _ _ _ hm).trans hψ⟩
      · rcases Ghost.setRun_cases hm with ⟨rfl, _, rfl⟩ | ⟨_, hold⟩
        · change CapFits CapPhase.start (g.world.runLog m)
          rw [hfresh]
          exact ⟨⟨rfl, rfl, rfl⟩, fun _ _ hheld => (by cases hheld), fun _ b hb => by cases hb⟩
        · exact hg.fits m j ψ hold
    | call r ans hn ha hx =>
      rename_i n i φ w
      have hnumber : i.number = n := hnumbered n i _ (Ghost.setRun_self _ _ _ _)
      have hg := ih fun m j ψ hm => by
        by_cases hmn : m = n
        · subst hmn
          rw [hn] at hm
          cases hm
          exact hnumber
        · exact hnumbered m j ψ ((Ghost.setRun_of_ne _ _ _ hmn).trans hm)
      exact hg.call hn hnumber ha hx
    | tick hw =>
      obtain ⟨s', rfl⟩ := hw
      have hg := ih hnumbered
      exact ⟨hg.known, hg.fits, hg.starts_eq, hg.starts_le, hg.returned, hg.gone⟩

omit [CaseMap] in
theorem nodup_runs (p : CapEntry → Bool) (h : ∀ n, ((l.filter (·.run == n)).filter p).length ≤ 1) :
    ((l.filter p).map CapEntry.run).Nodup := by
  refine nodup_iff_count_le_one.2 fun n => ?_
  have hcount : ((l.filter p).map CapEntry.run).count n = ((l.filter (·.run == n)).filter p).length := by
    rw [List.count, countP_map, countP_eq_length_filter, filter_filter, filter_filter]
    refine congrArg List.length (filter_congr fun e _ => ?_)
    exact Bool.and_comm _ _
  rw [hcount]
  exact h n

section

variable {limit : Nat} {g : CapGhost}

theorem CapInv.fit (h : CapInv limit g) {e : CapEntry} (he : e ∈ g.world.log) :
    ∃ φ, CapFits φ (g.world.runLog e.run) ∧ e ∈ g.world.runLog e.run := by
  obtain ⟨i, φ, hφ⟩ := h.known e he
  exact ⟨φ, h.fits _ i φ hφ, mem_filter.2 ⟨he, by simp⟩⟩

omit [CaseMap] in
theorem CapEntry.act_of_orders {e : CapEntry} (h : e.orders = true) : ∃ symbol, e.act = .order symbol := by
  unfold orders at h
  split at h
  · rename_i symbol hact
    exact ⟨symbol, hact⟩
  · cases h

theorem CapInv.orders_nodup (h : CapInv limit g) : ((g.world.log.filter orders).map CapEntry.run).Nodup := by
  refine nodup_runs _ fun n => ?_
  by_cases hnone : (g.world.runLog n).filter orders = []
  · change ((g.world.runLog n).filter orders).length ≤ 1
    rw [hnone]
    exact Nat.zero_le _
  · obtain ⟨e, he⟩ := exists_mem_of_ne_nil _ hnone
    obtain ⟨hmem, horder⟩ := mem_filter.1 he
    obtain ⟨hlog, hrun⟩ := mem_filter.1 hmem
    obtain rfl : e.run = n := by simpa using hrun
    obtain ⟨φ, hfit, hin⟩ := h.fit hlog
    obtain ⟨symbol, hact⟩ := CapEntry.act_of_orders horder
    obtain ⟨_, _, _, _, _, _, _, hone⟩ := hfit.order hin hact
    change ((g.world.runLog e.run).filter orders).length ≤ 1
    rw [hone]
    exact Nat.le_refl 1

theorem CapInv.orders_le (h : CapInv limit g) (key : String × String) (day : Int) :
    (g.world.ordersOn key day).length ≤ g.world.guard.starts key day := by
  have hsublist : (g.world.ordersOn key day).Sublist (g.world.log.filter orders) :=
    g.world.log.monotone_filter_right fun e he => (Bool.and_eq_true_iff.1 he).1
  have hnodup : ((g.world.ordersOn key day).map CapEntry.run).Nodup :=
    h.orders_nodup.sublist (hsublist.map _)
  have hsub : (g.world.ordersOn key day).map CapEntry.run ⊆ (g.world.countedOn key day).map CapEntry.run := by
    intro n hn
    obtain ⟨e, he, rfl⟩ := mem_map.1 hn
    obtain ⟨hlog, hon⟩ := mem_filter.1 he
    obtain ⟨horder, hstart⟩ := Bool.and_eq_true_iff.1 hon
    obtain ⟨b, hb, hstart⟩ := List.any_eq_true.1 hstart
    obtain ⟨hrun, hstart⟩ := Bool.and_eq_true_iff.1 hstart
    obtain ⟨hkey, hday⟩ := Bool.and_eq_true_iff.1 hstart
    obtain ⟨φ, hfit, hin⟩ := h.fit hlog
    obtain ⟨symbol, hact⟩ := CapEntry.act_of_orders horder
    obtain ⟨b', key', hone, hact', hwent, _⟩ := hfit.order hin hact
    -- the start asked for the counter is the one that returned
    have hact_b : b.act = .consume key := by simpa using hkey
    have hconsumes : b.consumes = true := by
      unfold consumes
      rw [hact_b]
    have hbb : b ∈ (g.world.runLog e.run).filter consumes :=
      mem_filter.2 ⟨mem_filter.2 ⟨hb, hrun⟩, hconsumes⟩
    rw [hone, mem_singleton] at hbb
    subst hbb
    have hcounted := h.returned b hb hconsumes hwent
    refine mem_map.2 ⟨b, mem_filter.2 ⟨hb, ?_⟩, by simpa using hrun⟩
    rw [hstart, hcounted]
    rfl
  have hle := (subperm_of_subset hnodup hsub).length_le
  rw [length_map, length_map] at hle
  rw [h.starts_eq]
  exact hle

end

end

/-- **The daily cap**: over all interleavings of cycles in any number of processes. -/
theorem daily_cap (limit : Nat) {c : CapConfig} (h : Reachable (capSystem limit) CapRun.prog c) (hn : c.Numbered) :
    DailyCap limit c := by
  have hcovered : ∃ g, Reached (capSystem limit) (fun _ => capProtocol) .start g ∧
      Covered (fun _ => capProtocol) (fun _ _ φ => φ.held = none) c g :=
    covered _ (fun i _ => MainRun.run_capped i.settings) h
  obtain ⟨g, hg, hcov⟩ := hcovered
  have hw := hcov.1
  have hinv : CapInv limit g := capInv_reached limit hg fun n i φ hφ => by
    obtain ⟨p, hp⟩ := hcov.run hφ
    exact hn n i p hp
  have hsub : ∀ n, (g.world.runLog n).Sublist g.world.log := fun n => List.filter_sublist
  have hrun : ∀ {n e}, e ∈ g.world.runLog n → e.run = n := fun he => by simpa using (List.mem_filter.1 he).2
  refine ⟨?_, ?_, ?_, ?_, ?_, ?_, ?_⟩
  all_goals rw [hw]
  · exact hinv.orders_le
  · intro e he symbol hact
    obtain ⟨φ, hfit, hin⟩ := hinv.fit he
    obtain ⟨b, key, _, hact', hwent, hkey, hbefore, _⟩ := hfit.order hin hact
    have hb : b ∈ g.world.runLog e.run := hbefore.subset (by simp)
    exact ⟨b, hbefore.trans (hsub _), hrun hb, hwent, key, hact', hkey⟩
  · exact hinv.starts_eq
  · intro b hb key hact hwent
    have hconsumes : b.consumes = true := by
      unfold consumes
      rw [hact]
    refine List.mem_filter.2 ⟨hb, ?_⟩
    unfold startsOn
    rw [hact, hinv.returned b hb hconsumes hwent]
    simp
  · exact hinv.starts_le
  · intro b hb hconsumes hwent e he heq
    obtain ⟨φ, hfit, hin⟩ := hinv.fit hb
    obtain ⟨hclaims, horders⟩ := hfit.refused hin hconsumes hwent
    have hein : e ∈ g.world.runLog b.run := List.mem_filter.2 ⟨he, by simpa using heq⟩
    exact ⟨by simpa using List.filter_eq_nil_iff.1 hclaims e hein, by simpa using List.filter_eq_nil_iff.1 horders e hein⟩
  · intro b hb hconsumes hwent i out hend
    obtain ⟨φ, hφ, hwp⟩ := hcov.live hend
    have hheld : φ.held = none := (wp_ofExcept out φ _).1 hwp
    have hfit := hinv.fits _ i φ hφ
    have hin : b ∈ (g.world.runLog b.run).filter consumes :=
      List.mem_filter.2 ⟨List.mem_filter.2 ⟨hb, by simp⟩, hconsumes⟩
    obtain ⟨r, a, scope, owner, hbefore, hact, hacq, hrel⟩ := hfit.released hheld b hin
    have hr : r ∈ g.world.runLog b.run := hbefore.subset (by simp)
    have ha : a ∈ g.world.runLog b.run := hbefore.subset (by simp)
    exact ⟨r, a, scope, owner, hbefore.trans (hsub _), hrun ha, hrun hr, hact, hacq, hrel,
      hinv.gone r (List.mem_of_mem_filter hr) scope owner hrel⟩

/-! ## A sample: a start that was counted and raised -/

end Jqe

namespace Jqe

open Coro Prog

local instance capCase : CaseMap := asciiCase

def capScript : RunScript Unit where
  script := fillingScript none
  account := sampleAccount 1000
  bars := [sampleBar]
  moment _ := 1767226600
  history _ start endAt _ :=
    { completeness := .complete, coverageStart := some start, coverageEnd := some endAt }
  sizing := sampleSizing 1000 oneLot

def capRun : CapRun := ⟨0, sampleSettings "PAINX1200" 5 1⟩

def capAnswer (w : CapWorld) : (r : RunReq) → Except PyExc r.Ans × CapWorld
  | .consume scope instrument =>
    match w.guard.consume 20 scope instrument 1767226600 with
    | .ok f' =>
      (.error (.exception "database is locked"),
        { w with guard := f' }.record capRun (.consume scope instrument) (.error (.exception "database is locked"))
          (utcDay 1767226600) true)
    | .error e => (.error e, w.record capRun (.consume scope instrument) (.error e) (utcDay 1767226600) false)
  | .exec p c (.store op) =>
    match op.apply 0 w.store with
    | .ok (a, s') => (.ok a, { w with store := s' }.record capRun (.exec p c (.store op)) (.ok a) 0 false)
    | .error e => (.error e, w.record capRun (.exec p c (.store op)) (.error e) 0 false)
  | r =>
    ((capScript.handle capRun.settings ⟨startWorld (), []⟩ r).1,
      w.record capRun r (capScript.handle capRun.settings ⟨startWorld (), []⟩ r).1 0 false)

theorem capAnswer_exec (w : CapWorld) (r : RunReq) : CapExec 20 w capRun r (capAnswer w r).1 (capAnswer w r).2 := by
  cases r with
  | consume scope instrument =>
    unfold capAnswer
    dsimp only
    split
    · rename_i f' h
      exact .consume scope instrument 1767226600 (.lost _ h)
    · rename_i e h
      exact .consume scope instrument 1767226600 (.refused h)
  | exec p c r =>
    cases r with
    | store op =>
      unfold capAnswer
      dsimp only
      split
      · rename_i a s' h
        exact .store p c op (.committed 0 h)
      · exact .store p c op (.rolledBack _)
    | _ => exact .asked _ _ (fun _ _ h => by cases h) fun _ _ _ h => by cases h
  | _ => exact .asked _ _ (fun _ _ h => by cases h) fun _ _ _ h => by cases h

def capStart : CapWorld := ⟨.empty, .empty, []⟩

def capEnds : Except PyExc CycleExecutionResult × CapWorld := capRun.prog.run capAnswer capStart

def capConfig : CapConfig :=
  ((Config.start capStart : CapConfig).setRun 0 capRun (some (ofExcept capEnds.1))).setWorld capEnds.2

theorem capConfig_reachable : Reachable (capSystem 20) CapRun.prog capConfig := by
  have hinit : Reachable (capSystem 20) CapRun.prog (.start capStart) := .init ⟨rfl, rfl⟩
  exact hinit.complete (n := 0) rfl (i := capRun) trivial capAnswer capAnswer_exec

theorem capConfig_facts : capConfig.world.guard.starts ("weltrade:1001", "PAINX1200") 20454 = 1 ∧
    (capConfig.world.log.filter fun e => e.startsOn ("weltrade:1001", "PAINX1200") 20454 && e.went).length = 0 ∧
    (capConfig.world.log.any fun b => b.consumes && !b.went && b.run == 0) = true := by
  have hkey : PlannedOrder.buildExecutionIdempotencyKey = PlannedOrder.keyAmong [(sampleOrderOf "PAINX1200" oneLot,
      "jqe-v2-6e2c4c05d05703acddeeaec21428a2b2797e0ab5cd4ed2271ee02e37572c6f04")] :=
    PlannedOrder.buildExecutionIdempotencyKey_among (List.forall_mem_singleton.2 sampleOrderOf_key)
  have hworld : capConfig.world = ((MainRun.run capRun.settings).run capAnswer capStart).2 := by
    rw [capConfig, Config.setWorld_world, capEnds, CapRun.prog]
  rw [MainRun.run] at hworld
  simp only [MainRun.trade, MainRun.execute, MainRun.submitCall] at hworld
  rw [hkey] at hworld
  rw [hworld]
  decide +kernel

theorem capConfig_numbered : capConfig.Numbered := by
  intro n i p hn
  by_cases h : n = 0
  · subst h
    cases hn
    rfl
  · change Function.update _ 0 _ n = _ at hn
    rw [Function.update_of_ne h] at hn
    cases hn

/-- **A start may be counted that did not return**: the usage read after the commit raises. -/
theorem starts_not_returned : ∃ c : CapConfig, Reachable (capSystem 20) CapRun.prog c ∧ c.Numbered ∧ ∃ key day,
    c.world.guard.starts key day ≠ (c.world.log.filter fun e => e.startsOn key day && e.went).length := by
  refine ⟨capConfig, capConfig_reachable, capConfig_numbered, ("weltrade:1001", "PAINX1200"), 20454, ?_⟩
  rw [capConfig_facts.1, capConfig_facts.2.1]
  exact Nat.one_ne_zero

theorem daily_cap_lost : DailyCap 20 capConfig ∧
    ∃ b ∈ capConfig.world.log, b.consumes = true ∧ b.went = false ∧
      ∃ r ∈ capConfig.world.log, r.run = 0 ∧ ∃ scope owner, r.act = .release scope owner := by
  have hcap := daily_cap 20 capConfig_reachable capConfig_numbered
  obtain ⟨b, hb, hfacts⟩ := List.any_eq_true.1 capConfig_facts.2.2
  rw [Bool.and_eq_true, Bool.and_eq_true, beq_iff_eq, Bool.not_eq_true'] at hfacts
  obtain ⟨⟨hconsumes, hwent⟩, hrun⟩ := hfacts
  have hend : capConfig.runs b.run = some (capRun, some (ofExcept capEnds.1)) := by
    rw [hrun]
    exact Config.setRun_self (Config.start capStart : CapConfig) 0 capRun (some (ofExcept capEnds.1))
  obtain ⟨r, a, scope, owner, hsub, _, hr, _, _, hact, _⟩ := hcap.released b hb hconsumes hwent _ _ hend
  exact ⟨hcap, b, hb, hconsumes, hwent, r, hsub.subset (by simp), hr.trans hrun, scope, owner, hact⟩

end Jqe
