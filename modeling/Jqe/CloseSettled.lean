import Jqe.CloseMonitor
import Jqe.CoroEnds
import Jqe.LedgerSound
/-!
# CloseSettled — what a pass of the close monitor leaves

Over any ledger whose rows are measured, any positions that have not grown, and any closed deals, while writes commit,
raise rolled back, or raise although they committed.
-/
namespace Jqe

open Coro Prog List

/-- **What a pass is shown**: the positions, the time, and what the terminal may be while the history is read. -/
structure CloseScene where
  positions : List Mt5Position
  now : Int
  terminals : HistoryTerminal → Prop

structure CloseWorld where
  ledger : Ledger
  halt : Option String
  /-- whether there was no connection, a call that nothing catches raised, or what was raised is no `Exception` -/
  mishap : Bool

/-- A call whose exceptions the pass answers with a halt, or ignores. -/
def CloseReq.caught : CloseReq → Bool
  | ledger _ | tradeBlocked _ | openEntriesAgain | pendingCloseNotifications | demoTrade _ => true
  | _ => false

/-- What an exception of a call amounts to. -/
def CloseWorld.raised (w : CloseWorld) (r : CloseReq) (e : PyExc) : CloseWorld :=
  { w with mishap := w.mishap || !e.isException || !r.caught }

/-- One call of the ledger: it commits, raises rolled back, or raises although it committed. -/
inductive LedgerExec (l : Ledger) (op : LedgerOp) : Except PyExc op.Ans → Ledger → Prop
  | committed (now : Int) {a : op.Ans} {l' : Ledger} (h : op.apply now l = .ok (a, l')) : LedgerExec l op (.ok a) l'
  | rolledBack (e : PyExc) : LedgerExec l op (.error e) l
  | lost (now : Int) {a : op.Ans} {l' : Ledger} (e : PyExc) (h : op.apply now l = .ok (a, l')) :
      LedgerExec l op (.error e) l'

def CloseReq.free : CloseReq → Bool
  | login | tradeBlocked _ | demoTrade _ | shutdown => true
  | _ => false

inductive CloseExec (sc : CloseScene) (w : CloseWorld) : (r : CloseReq) → Except PyExc r.Ans → CloseWorld → Prop
  | free (r : CloseReq) (a : r.Ans) (hr : r.free = true) : CloseExec sc w r (.ok a) w
  | connected : CloseExec sc w .connect (.ok true) w
  | notConnected : CloseExec sc w .connect (.ok false) { w with mishap := true }
  | positions : CloseExec sc w .positionsGet (.ok (some sc.positions)) w
  | noPositions : CloseExec sc w .positionsGet (.ok none) w
  | now : CloseExec sc w .now (.ok sc.now) w
  | openEntries {rows : List PositionLedgerEntry} (h : w.ledger.openEntries "weltrade" = .ok rows) :
      CloseExec sc w .openEntries (.ok rows) w
  | openEntriesAgain {rows : List PositionLedgerEntry} (h : w.ledger.openEntries "weltrade" = .ok rows) :
      CloseExec sc w .openEntriesAgain (.ok rows) w
  | pending : CloseExec sc w .pendingCloseNotifications (.ok (w.ledger.pendingCloseNotifications "weltrade")) w
  | history {start endAt : Int} (t : HistoryTerminal) (ht : sc.terminals t) (readAt : Int) {s : TradeHistorySnapshot}
      (h : readMt5TradeHistorySnapshot t true start endAt readAt 500 = .ok s) :
      CloseExec sc w (.history start endAt) (.ok s) w
  | ledgerOk (op : LedgerOp) {a : op.Ans} {l' : Ledger} (h : LedgerExec w.ledger op (.ok a) l') :
      CloseExec sc w (.ledger op) (.ok a) { w with ledger := l' }
  | ledgerRaised (op : LedgerOp) {e : PyExc} {l' : Ledger} (h : LedgerExec w.ledger op (.error e) l') :
      CloseExec sc w (.ledger op) (.error e) ({ w with ledger := l' }.raised (.ledger op) e)
  | halted (reason : String) :
      CloseExec sc w (.recordPostFillIntegrityHalt reason) (.ok ()) { w with halt := some (w.halt.getD (strip reason)) }
  | haltRead : CloseExec sc w .postFillIntegrityHalt (.ok w.halt) w
  | raised (r : CloseReq) (e : PyExc) (hr : ∀ op, r ≠ .ledger op) : CloseExec sc w r (.error e) (w.raised r e)

theorem volumeTol_nonneg : 0 ≤ volumeTol := by decide +kernel

theorem volumeTol_le_one : volumeTol ≤ 1 := by decide +kernel

theorem closeVolume_iff {a b : ℚ} :
    closeVolume a b = true ↔ |a - b| ≤ volumeTol * |a| ∨ |a - b| ≤ volumeTol * |b| ∨ |a - b| ≤ volumeTol := by
  unfold closeVolume isClose
  rw [decide_eq_true_eq, mul_max_of_nonneg _ _ volumeTol_nonneg, le_max_iff, le_max_iff, or_assoc]

theorem closeVolume_refl (v : ℚ) : closeVolume v v = true := by
  rw [closeVolume_iff, sub_self, abs_zero]
  exact .inr (.inr volumeTol_nonneg)

theorem closeVolume_between {p q v : ℚ} (hpq : p ≤ q) (hqv : q ≤ v) (h : closeVolume p v = true) :
    closeVolume q p = true := by
  rw [closeVolume_iff] at h ⊢
  rw [abs_sub_comm, abs_of_nonneg (sub_nonneg.2 (hpq.trans hqv))] at h
  rw [abs_of_nonneg (sub_nonneg.2 hpq)]
  have hle : q - p ≤ v - p := sub_le_sub_right hqv p
  have hscale : volumeTol * (v - q) ≤ v - q := mul_le_of_le_one_left (sub_nonneg.2 hqv) volumeTol_le_one
  rcases h with h | h | h
  · exact .inr (.inl (hle.trans h))
  · by_cases hv : 0 ≤ v
    · refine .inl (le_trans ?_ (mul_le_mul_of_nonneg_left (le_abs_self q) volumeTol_nonneg))
      rw [abs_of_nonneg hv] at h
      linarith
    · refine .inr (.inl (hle.trans (h.trans (mul_le_mul_of_nonneg_left ?_ volumeTol_nonneg))))
      rw [abs_of_neg (by linarith : v < 0), abs_of_nonpos (by linarith : p ≤ 0)]
      linarith
  · exact .inr (.inr (hle.trans h))
/-! ## Evidence in the deals -/

namespace Mt5Deal

def closesOf (id : String) (d : Mt5Deal) : Bool := d.closes && (d.positionId.map toString == some id)

end Mt5Deal

def openedVolume (deals : List Mt5Deal) (id : String) : ℚ := ((deals.filter (·.opens id)).map (·.lots)).sum

def closedVolume (deals : List Mt5Deal) (id : String) : ℚ := ((deals.filter (·.closesOf id)).map (·.lots)).sum

/-- The profits of the closing deals, with all commissions and swaps of the position. -/
def realizedPnl (deals : List Mt5Deal) (id : String) : ℚ :=
  ((deals.filter (·.closesOf id)).map (·.profit)).sum +
    ((deals.filter fun d => d.key? == some id).map (·.charge)).sum

def turnover (deals : List Mt5Deal) (id : String) : ℚ :=
  ((deals.filter (·.closesOf id)).map fun d => d.lots * d.price).sum

/-- **The deals a terminal shows of the time since a row was opened**, up to the pass, on the clock of its server. -/
def ShownDeals (sc : CloseScene) (openedAt : Int) (deals : List Mt5Deal) : Prop :=
  ∃ t, sc.terminals t ∧ ∃ readAt tick offset fromT toT, t.tickTime = .ok tick ∧
    historyServerOffset tick readAt = some offset ∧ fromT ≤ openedAt - 300 ∧ sc.now ≤ toT ∧
    t.historyDealsGet (fromT + offset) (toT + offset) = .ok (some deals)

/-- **The deals account for what the row lost**: they open its volume and close what is not there any more. -/
structure Evidence (deals : List Mt5Deal) (id : String) (volume observed : ℚ) : Prop where
  opened : closeVolume (openedVolume deals id) volume = true
  closed : closeVolume (closedVolume deals id) (volume - observed) = true

/-- **What becomes of an open row**: it is closed by the deals, or as large as the broker's position. -/
inductive Settled (sc : CloseScene) (id : String) (r r' : LedgerRow) : Prop
  | closed (volume : ℚ) (deals : List Mt5Deal) (hclosed : r'.closedAt.isSome)
      (habsent : CloseMonitor.byTicket sc.positions id = none) (hvolume : r.volume = some volume)
      (hshown : ShownDeals sc r.openedAt deals) (hevidence : Evidence deals id volume 0)
      (hpnl : r'.realizedPnl = some (.fin (realizedPnl deals id)))
      (hprice : r'.closePrice = some (.fin (turnover deals id / closedVolume deals id)))
  | live (p : Mt5Position) (remaining : ℚ) (hopen : r'.closedAt = none)
      (hlive : CloseMonitor.byTicket sc.positions id = some p) (hremaining : r'.remainingVolume = some remaining)
      (hagree : closeVolume remaining p.volume = true)

theorem Settled.notified {sc : CloseScene} {id : String} {r r' : LedgerRow} (h : Settled sc id r r')
    (claimed : Option Int) : Settled sc id r { r' with closeNotificationClaimedAt := claimed } := by
  cases h with
  | closed volume deals hclosed habsent hvolume hshown hevidence hpnl hprice =>
    exact .closed volume deals hclosed habsent hvolume hshown hevidence hpnl hprice
  | live p remaining hopen hlive hremaining hagree => exact .live p remaining hopen hlive hremaining hagree

/-- **A ticket has not grown**: its row has a remainder within its volume, and the broker shows no more than it. -/
def NotGrown (sc : CloseScene) (id : String) (r : LedgerRow) : Prop :=
  ∀ volume, r.volume = some volume → ∃ remaining, r.remainingVolume = some remaining ∧ remaining ≤ volume ∧
    ∀ p, CloseMonitor.byTicket sc.positions id = some p → p.volume ≤ remaining

/-- **A row passes the checks**: the broker shows its volume, or a reading of the history confirms what it lost. -/
def Passes [CaseMap] (sc : CloseScene) (row : PositionLedgerEntry) : Prop :=
  ∃ volume, row.volume = some volume ∧ 0 < volume ∧
    ((∃ p, CloseMonitor.byTicket sc.positions row.positionId = some p ∧ closeVolume p.volume volume = true) ∨
      ∃ t readAt s, sc.terminals t ∧
        readMt5TradeHistorySnapshot t true (row.openedAt - 300) sc.now readAt 500 = .ok s ∧
        (CloseMonitor.finding? row volume
          (((CloseMonitor.byTicket sc.positions row.positionId).map (·.volume)).getD 0) s (row.openedAt - 300)
          sc.now).isSome)

/-! ## What the checks of a row find -/

namespace CloseMonitor

theorem trades_of_position (deals : List Mt5Deal) (offset : Int) (id : String) :
    ((deals.filter (·.closes)).map (·.toEntry offset)).filter (fun t => t.positionId == some id) =
      (deals.filter (·.closesOf id)).map (·.toEntry offset) := by
  rw [filter_map, filter_filter]
  congr 1
  refine filter_congr fun d _ => ?_
  exact Bool.and_comm _ _

/-- **A confirmed close rests on deals that a terminal shows.** -/
theorem finding?_evidence [CaseMap] {sc : CloseScene} {row : PositionLedgerEntry} {volume observed : ℚ} {t : HistoryTerminal}
    {readAt : Int} {s : TradeHistorySnapshot} {f : CloseFinding} (ht : sc.terminals t)
    (hread : readMt5TradeHistorySnapshot t true (row.openedAt - 300) sc.now readAt 500 = .ok s)
    (hf : finding? row volume observed s (row.openedAt - 300) sc.now = some f) :
    ∃ deals, ShownDeals sc row.openedAt deals ∧ Evidence deals row.positionId volume observed ∧
      f.pnl = realizedPnl deals row.positionId ∧ f.turnover = turnover deals row.positionId ∧
      f.closedVolume = closedVolume deals row.positionId ∧ ∃ n : Int, row.positionId = toString n := by
  unfold finding? at hf
  dsimp only at hf
  split at hf
  · rename_i last fees hlast hfees
    split at hf
    · rename_i hchecks
      simp only [Bool.and_eq_true] at hchecks
      obtain ⟨⟨⟨⟨⟨hcovers, _⟩, _⟩, _, hclosed⟩, _⟩, hopened⟩ := hchecks
      have hcomplete : s.completeness = .complete := by
        unfold TradeHistorySnapshot.covers at hcovers
        rw [Bool.and_eq_true, Bool.and_eq_true] at hcovers
        exact beq_iff_eq.1 hcovers.1.1
      obtain ⟨offset, deals, tick, _, htick, hoffset, hget, htrades, hcharges⟩ := snapshot_complete hread hcomplete
      have hcloses := trades_of_position deals offset row.positionId
      rw [htrades, hcloses] at hf hlast hclosed
      obtain ⟨hfee, hopen⟩ := charges_sum row.positionId deals [] [] _ _ hcharges
      rw [lookup_nil, Option.getD_none, zero_add] at hfee hopen
      rw [hfees, Option.getD_some] at hfee
      cases hf
      refine ⟨deals, ⟨t, ht, readAt, tick, offset, _, _, htick, hoffset, min_le_left _ _, le_max_left _ _, hget⟩,
        ⟨?_, ?_⟩, ?_, ?_, ?_, ?_⟩
      · rwa [hopen] at hopened
      · rwa [map_map] at hclosed
      · dsimp only
        rw [map_map, hfee]
        rfl
      · dsimp only
        rw [map_map]
        rfl
      · dsimp only
        rw [map_map]
        rfl
      · cases hd : deals.filter (·.closesOf row.positionId) with
        | nil =>
          rw [hd] at hlast
          cases hlast
        | cons d rest =>
          have hmem : d ∈ deals.filter (·.closesOf row.positionId) := by
            rw [hd]
            exact mem_cons_self
          have hid := (mem_filter.1 hmem).2
          unfold Mt5Deal.closesOf at hid
          rw [Bool.and_eq_true, beq_iff_eq, Option.map_eq_some_iff] at hid
          obtain ⟨n, _, hn⟩ := hid.2
          exact ⟨n, hn.symm⟩
    · cases hf
  · cases hf

theorem halt_not_ok {α : Type} {sc : CloseScene} {w w' : CloseWorld} {reason : String} {a : α} :
    ¬Ends (CloseExec sc) (halt reason : CloseProg α) w (.ok a) w' := by
  intro h
  obtain ⟨_, _, _, h⟩ := h.bind_ok
  cases (ends_raise.1 h).1

theorem tryExcept_halt_ok {α : Type} {sc : CloseScene} {w w' : CloseWorld} {p : CloseProg α} {reason : String} {a : α}
    (h : Ends (CloseExec sc) (tryExcept p (halt reason)) w (.ok a) w') : Ends (CloseExec sc) p w (.ok a) w' := by
  rcases h.tryCatch_ok with hp | ⟨e, w₁, _, h⟩
  · exact hp
  · split at h
    · exact absurd h halt_not_ok
    · cases (ends_raise.1 h).1

theorem unconfirmed_not_ok {sc : CloseScene} {w w' : CloseWorld} {notify : Bool} {row : PositionLedgerEntry} :
    ¬Ends (CloseExec sc) (unconfirmed notify row) w (.ok ()) w' := by
  intro h
  obtain ⟨_, _, _, h⟩ := h.bind_ok
  exact halt_not_ok h

variable {sc : CloseScene} {notify : Bool} {currency : String} {w w' : CloseWorld}

theorem exec_ledger_ok {op : LedgerOp} {a : op.Ans} (h : CloseExec sc w (.ledger op) (.ok a) w') :
    ∃ now l', op.apply now w.ledger = .ok (a, l') ∧ w' = { w with ledger := l' } := by
  cases h with
  | free _ _ hr => cases hr
  | ledgerOk _ h =>
    cases h with
    | committed now h => exact ⟨now, _, h, rfl⟩

theorem exec_openEntriesAgain_ok {rows : List PositionLedgerEntry}
    (h : CloseExec sc w .openEntriesAgain (.ok rows) w') : w' = w := by
  cases h with
  | free _ _ hr => cases hr
  | openEntriesAgain _ => rfl

theorem exec_history_ok {start endAt : Int} {s : TradeHistorySnapshot}
    (h : CloseExec sc w (.history start endAt) (.ok s) w') :
    w' = w ∧ ∃ t readAt, sc.terminals t ∧ readMt5TradeHistorySnapshot t true start endAt readAt 500 = .ok s := by
  cases h with
  | free _ _ hr => cases hr
  | history t ht readAt hread => exact ⟨rfl, t, readAt, ht, hread⟩

def Written (r : LedgerRow) (f : CloseFinding) (exitPrice : ℚ) (r' : LedgerRow) : Option ℚ → Prop
  | none => r'.closedAt.isSome ∧ r'.realizedPnl = some (.fin f.pnl) ∧ r'.closePrice = some (.fin exitPrice)
  | some remaining => r'.closedAt = r.closedAt ∧ r'.remainingVolume = some remaining

theorem settle_ok {row : PositionLedgerEntry} {observed : Option ℚ} {f : CloseFinding} {exitPrice : ℚ}
    (hbroker : row.broker = "weltrade") (hstrip : strip row.positionId = row.positionId)
    (hrow : w.ledger.row (row.broker, row.positionId) = some row.toLedgerRow) (hopen : row.closedAt = none)
    (h : Ends (CloseExec sc) (settle row observed currency f exitPrice) w (.ok ()) w') :
    (∀ key, key ≠ (row.broker, row.positionId) → w'.ledger.row key = w.ledger.row key) ∧
      ∃ r', w'.ledger.row (row.broker, row.positionId) = some r' ∧ Written row.toLedgerRow f exitPrice r' observed := by
  unfold settle at h
  cases observed with
  | none =>
    obtain ⟨changed, w₁, hask, hrest⟩ := h.bind_ok
    obtain ⟨now, l', happ, rfl⟩ := exec_ledger_ok (ends_perform.1 hask)
    obtain ⟨t, _, heq⟩ := Ledger.markClosed_ok happ
    rw [hstrip, show strip "weltrade" = row.broker by rw [hbroker]; decide] at heq
    rcases w.ledger.updateWhere_cases _ _ _ with ⟨hsame, _⟩ | ⟨r, _, _, hset⟩
    · rw [hsame] at heq
      cases heq
      cases (ends_raise.1 hrest).1
    · rw [hset] at heq
      cases heq
      obtain ⟨_, rfl⟩ := ends_pure.1 hrest
      exact ⟨fun key hkey => Ledger.row_setRow_of_ne _ _ hkey, _, Ledger.row_setRow _ _ _, rfl, rfl, rfl⟩
  | some remaining =>
    obtain ⟨changed, w₁, hask, hrest⟩ := h.bind_ok
    obtain ⟨now, l', happ, rfl⟩ := exec_ledger_ok (ends_perform.1 hask)
    have hpartial : Ledger.markPartialClose "weltrade" row.positionId (.fin remaining) (.fin f.pnl) w.ledger =
        .ok (changed, l') := happ
    obtain ⟨q, pnl, hq, hpnl, _, heq⟩ := Ledger.markPartialClose_ok hpartial
    cases hq
    cases hpnl
    rw [← hbroker] at heq
    rcases w.ledger.updateWhere_cases _ _ _ with ⟨hsame, hnot⟩ | ⟨r, hr, _, hset⟩
    · -- the row says it already, for it is read again and agrees
      rw [hsame] at heq
      cases heq
      obtain ⟨rows, w₂, hagain, hrest⟩ := hrest.bind_ok
      obtain rfl := exec_openEntriesAgain_ok (ends_perform.1 hagain)
      have hw' : w' = w := by
        split at hrest
        · exact (ends_pure.1 hrest).2
        · cases (ends_raise.1 hrest).1
      subst hw'
      have hclear := hnot _ hrow
      rw [decide_eq_false_iff_not, hopen, Option.isNone_none, not_and_or, not_or, not_not] at hclear
      rcases hclear with hclear | ⟨hclear, _⟩
      · exact absurd rfl hclear
      · exact ⟨fun _ _ => rfl, row.toLedgerRow, hrow, rfl, hclear⟩
    · rw [hset] at heq
      cases heq
      obtain ⟨_, rfl⟩ := ends_pure.1 hrest
      rw [hrow] at hr
      cases hr
      exact ⟨fun key hkey => Ledger.row_setRow_of_ne _ _ hkey, _, Ledger.row_setRow _ _ _, rfl, rfl⟩

/-! ## What follows the rows -/

def KeptRow (l l' : Ledger) (key : String × String) : Prop :=
  l'.row key = l.row key ∨ ∃ r claimed, r.closedAt ≠ none ∧ l.row key = some r ∧
    l'.row key = some { r with closeNotificationClaimedAt := claimed }

def Notified (l l' : Ledger) : Prop := ∀ key, KeptRow l l' key

theorem Notified.trans {l l' l'' : Ledger} (h : Notified l l') (h' : Notified l' l'') : Notified l l'' := by
  intro key
  rcases h' key with heq' | ⟨r', claimed', hclosed', hr', hset'⟩
  · unfold KeptRow
    rw [heq']
    exact h key
  · rcases h key with heq | ⟨r, claimed, hclosed, hr, hset⟩
    · exact .inr ⟨r', claimed', hclosed', heq ▸ hr', hset'⟩
    · rw [hset] at hr'
      cases hr'
      exact .inr ⟨r, claimed', hclosed, hr, hset'⟩

theorem notified_refl (l : Ledger) : Notified l l := fun _ => .inl rfl

theorem exec_demoTrade {row : PositionLedgerEntry} {out : Except PyExc Unit}
    (h : CloseExec sc w (.demoTrade row) out w') : w'.ledger = w.ledger := by
  cases h with
  | free _ _ _ => rfl
  | raised _ _ _ => rfl

theorem sendPendingClose_ok {row : PositionLedgerEntry}
    (h : Ends (CloseExec sc) (sendPendingClose row) w (.ok ()) w') : Notified w.ledger w'.ledger := by
  obtain ⟨claimed, w₁, hask, hrest⟩ := h.bind_ok
  obtain ⟨now, l', happ, rfl⟩ := exec_ledger_ok (ends_perform.1 hask)
  have hclaim : Notified w.ledger l' := by
    have heq : w.ledger.claimCloseNotificationOnce now "weltrade" row.positionId = (claimed, l') := Except.ok.inj happ
    unfold Ledger.claimCloseNotificationOnce at heq
    rcases w.ledger.updateWhere_cases _ _ _ with ⟨hsame, _⟩ | ⟨r, hr, hw, hset⟩
    · rw [hsame] at heq
      cases heq
      exact notified_refl _
    · rw [hset] at heq
      cases heq
      intro key
      by_cases hkey : key = ("weltrade", row.positionId)
      · refine .inr ⟨r, some now, ?_, by rw [hkey, hr], by rw [hkey, Ledger.row_setRow]⟩
        exact Option.isSome_iff_ne_none.1 (of_decide_eq_true hw).1
      · exact .inl (Ledger.row_setRow_of_ne _ _ hkey)
  have hledger : w'.ledger = l' := by
    split at hrest
    · rcases hrest.tryCatch_ok with hsent | ⟨e, w₂, hsent, hrest⟩
      · exact exec_demoTrade (ends_perform.1 hsent)
      · have hw₂ := exec_demoTrade (ends_perform.1 hsent)
        split at hrest
        · rw [(ends_pure.1 hrest).2]
          exact hw₂
        · cases (ends_raise.1 hrest).1
    · rw [(ends_pure.1 hrest).2]
  rw [hledger]
  exact hclaim

theorem sendPendingEach_ok {rows : List PositionLedgerEntry}
    (h : Ends (CloseExec sc) (sendPendingEach rows) w (.ok ()) w') : Notified w.ledger w'.ledger := by
  induction rows generalizing w with
  | nil =>
    rw [(ends_pure.1 h).2]
    exact notified_refl _
  | cons row rows ih =>
    obtain ⟨_, w₁, hturn, hrest⟩ := h.bind_ok
    exact (sendPendingClose_ok hturn).trans (ih hrest)

theorem finishPass_ok (h : Ends (CloseExec sc) (finishPass notify) w (.ok ()) w') : Notified w.ledger w'.ledger := by
  obtain ⟨_, w₁, hsend, hrest⟩ := h.bind_ok
  obtain ⟨halted, w₂, hask, hrest⟩ := hrest.bind_ok
  have hw₂ : w₂ = w₁ := by
    cases ends_perform.1 hask with
    | free _ _ hr => cases hr
    | haltRead => rfl
  have hw' : w' = w₂ := by
    split at hrest
    · cases (ends_raise.1 hrest).1
    · exact (ends_pure.1 hrest).2
  subst hw' hw₂
  have hsent := tryExcept_halt_ok hsend
  split at hsent
  · obtain ⟨rows, w₂, hask, hrest⟩ := hsent.bind_ok
    have hw₂ : w₂ = w := by
      cases ends_perform.1 hask with
      | free _ _ hr => cases hr
      | pending => rfl
    subst hw₂
    exact sendPendingEach_ok hrest
  · rw [(ends_pure.1 hsent).2]
    exact notified_refl _

/-! ## The rows -/

variable [CaseMap]

theorem closeRow_ok {row : PositionLedgerEntry} (hbroker : row.broker = "weltrade") (hopen : row.closedAt = none)
    (hgrown : NotGrown sc row.positionId row.toLedgerRow)
    (hrow : w.ledger.row (row.broker, row.positionId) = some row.toLedgerRow)
    (h : Ends (CloseExec sc) (closeRow notify sc.positions sc.now currency row) w (.ok ()) w') :
    Passes sc row ∧ (∀ key, key ≠ (row.broker, row.positionId) → w'.ledger.row key = w.ledger.row key) ∧
      ∃ r', w'.ledger.row (row.broker, row.positionId) = some r' ∧ Settled sc row.positionId row.toLedgerRow r' := by
  unfold closeRow at h
  split at h
  · exact absurd h unconfirmed_not_ok
  · rename_i volume hfilter
    rw [Option.filter_eq_some_iff] at hfilter
    obtain ⟨hvolume, hpos⟩ := hfilter
    have hpos : 0 < volume := of_decide_eq_true hpos
    dsimp only at h
    by_cases hsame : ((byTicket sc.positions row.positionId).map (·.volume)).any (closeVolume · volume) = true
    · rw [if_pos hsame] at h
      obtain ⟨_, rfl⟩ := ends_pure.1 h
      obtain ⟨_, hmap, hclose⟩ := (Option.any_eq_true _ _).1 hsame
      obtain ⟨p, hp, rfl⟩ := Option.map_eq_some_iff.1 hmap
      obtain ⟨remaining, hremaining, hle, hgrown⟩ := hgrown volume hvolume
      exact ⟨⟨volume, hvolume, hpos, .inl ⟨p, hp, hclose⟩⟩, fun _ _ => rfl, _, hrow,
        .live p remaining hopen hp hremaining (closeVolume_between (hgrown p hp) hle hclose)⟩
    · rw [if_neg hsame] at h
      obtain ⟨history, w₁, hask, hrest⟩ := h.bind_ok
      obtain ⟨rfl, t, readAt, ht, hread⟩ := exec_history_ok (ends_perform.1 hask)
      clear h
      rename' hrest => h
      split at h
      · exact absurd h unconfirmed_not_ok
      · rename_i f hf
        split at h
        · cases (ends_raise.1 h).1
        · obtain ⟨deals, hshown, hevidence, hpnl, hturnover, hclosed, n, hn⟩ := finding?_evidence ht hread hf
          have hstrip : strip row.positionId = row.positionId := by rw [hn, strip_toString]
          obtain ⟨hother, r', hr', hwritten⟩ := settle_ok hbroker hstrip hrow hopen (tryExcept_halt_ok h)
          have hpasses : Passes sc row :=
            ⟨volume, hvolume, hpos, .inr ⟨t, readAt, history, ht, hread, by rw [hf]; rfl⟩⟩
          refine ⟨hpasses, hother, r', hr', ?_⟩
          cases hticket : byTicket sc.positions row.positionId with
          | none =>
            rw [hticket] at hevidence hwritten
            obtain ⟨hclosedAt, hpnl', hprice⟩ := hwritten
            rw [hpnl] at hpnl'
            rw [hturnover, hclosed] at hprice
            exact .closed volume deals hclosedAt hticket hvolume hshown hevidence hpnl' hprice
          | some p =>
            rw [hticket] at hwritten
            exact .live p p.volume (hwritten.1.trans hopen) hticket hwritten.2 (closeVolume_refl _)

/-- **All rows of a loop that returns have passed, and are settled**, and no other row has changed. -/
theorem closeRows_ok {rows : List PositionLedgerEntry}
    (hopen : ∀ row ∈ rows, row.broker = "weltrade" ∧ row.closedAt = none)
    (hgrown : ∀ row ∈ rows, NotGrown sc row.positionId row.toLedgerRow)
    (hnodup : (rows.map fun row => (row.broker, row.positionId)).Nodup)
    (hrows : ∀ row ∈ rows, w.ledger.row (row.broker, row.positionId) = some row.toLedgerRow)
    (h : Ends (CloseExec sc) (closeRows notify sc.positions sc.now currency rows) w (.ok ()) w') :
    (∀ row ∈ rows, Passes sc row ∧
      ∃ r', w'.ledger.row (row.broker, row.positionId) = some r' ∧ Settled sc row.positionId row.toLedgerRow r') ∧
      ∀ key, (∀ row ∈ rows, key ≠ (row.broker, row.positionId)) → w'.ledger.row key = w.ledger.row key := by
  induction rows generalizing w with
  | nil =>
    obtain ⟨_, rfl⟩ := ends_pure.1 h
    exact ⟨fun _ hrow => absurd hrow not_mem_nil, fun _ _ => rfl⟩
  | cons row rows ih =>
    obtain ⟨_, w₁, hturn, hrest⟩ := h.bind_ok
    rw [forall_mem_cons] at hopen hgrown hrows
    rw [map_cons, nodup_cons] at hnodup
    have hdistinct : ∀ other ∈ rows, (other.broker, other.positionId) ≠ (row.broker, row.positionId) := by
      intro other hmem heq
      exact hnodup.1 (mem_map.2 ⟨other, hmem, heq⟩)
    obtain ⟨hpasses, hsame, r', hr', hsettled⟩ := closeRow_ok hopen.1.1 hopen.1.2 hgrown.1 hrows.1 hturn
    have hrows₁ : ∀ other ∈ rows, w₁.ledger.row (other.broker, other.positionId) = some other.toLedgerRow := by
      intro other hmem
      rw [hsame _ (hdistinct other hmem)]
      exact hrows.2 other hmem
    obtain ⟨hall, hkeep⟩ := ih hopen.2 hgrown.2 hnodup.2 hrows₁ hrest
    constructor
    · intro other hmem
      rcases mem_cons.1 hmem with rfl | hmem
      · refine ⟨hpasses, r', ?_, hsettled⟩
        rw [hkeep _ fun other hother => (hdistinct other hother).symm]
        exact hr'
      · exact hall other hmem
    · intro key hkey
      rw [forall_mem_cons] at hkey
      rw [hkeep key hkey.2]
      exact hsame key hkey.1

end CloseMonitor

end Jqe
