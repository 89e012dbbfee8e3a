import Jqe.ExecDesk
/-!
# ExecLimits — never more positions than the limit, never two of one symbol

While a reservation is in a run's name and its key is not claimed, nothing is in flight, so the positions the run has
seen can only have disappeared.
-/
namespace Jqe

open Coro List
open Ghost (setRun_cases setWorld_world)

theorem subperm_map {α β : Type} (f : α → β) {l l' : List α} (h : l.Subperm l') : (l.map f).Subperm (l'.map f) := by
  obtain ⟨m, hperm, hsub⟩ := h
  exact ⟨m.map f, hperm.map f, hsub.map f⟩

theorem nodup_of_subperm {α : Type} {l l' : List α} (h : l.Subperm l') (hl : l'.Nodup) : l.Nodup := by
  obtain ⟨m, hperm, hsub⟩ := h
  exact hperm.nodup_iff.1 (hsub.nodup hl)

section

variable [CaseMap] {account : String} {M : Int} {w w' : ExecWorld Desk} {c : SubmitCall} {q : Phase} {r : ExecReq}
  {ans : Except PyExc r.Ans}

theorem Desk.symbols_vanish {d : Desk} {positions : List DeskPosition}
    (h : (positions.map mark).Subperm (d.positions.map mark)) :
    ({ d with positions } : Desk).symbols.Subperm d.symbols := by
  rw [symbols_eq, symbols_eq]
  exact subperm_map Prod.fst h

/-- **What a claim has found**: no row, a policy that passed on the view, and the reservation in the run's name. -/
theorem claim_finds {V : Venue Desk} (ha : Allowed c q r) (hx : Exec V w c r ans w') (hq : q.hasClaimed = false)
    (hq' : (phaseNext c q r ans).hasClaimed = true) :
    ∃ o h, q = .held o h ∧ w.store.row c.key = none ∧ passedOn c h ∧ w.store.HeldBy c.scope o := by
  obtain ⟨hnone, hsome⟩ := claim_inserts ha hx hq hq'
  cases rowEffect ha hx with
  | same hsame _ =>
    rw [hsame, hnone] at hsome
    cases hsome
  | claimed o h row hqh _ _ _ _ _ hp hheld _ => exact ⟨o, h, hqh, hnone, hp, hheld⟩
  | moved row record now hb _ _ _ =>
    rw [hnone] at hb
    cases hb

variable {g : ExecGhost Desk}

theorem under_reservation {n : Nat} {o : String} {h : Held} (hg : ExecReached (deskVenue account M) g)
    (hn : g.runs n = some (c, .held o h)) (hheld : g.world.store.HeldBy c.scope o)
    (hnone : g.world.store.row c.key = none) :
    g.world.broker.inflight = [] ∧ ∀ m d o', g.runs m ≠ some (d, .claimed o') := by
  have halone := AloneInv.reached hg
  have hbook := BookInv.reached hg
  have hscope : c.scope = account := (hg.admits _ _ _ hn).1
  refine ⟨eq_nil_iff_forall_not_mem.2 fun x hx => ?_, fun m d o' hm => ?_⟩
  · obtain ⟨k, hk, _⟩ := hbook.keyed x (Desk.mem_orders.2 (.inl hx))
    obtain ⟨row, hrow, hu, hacc⟩ := hbook.unresolved x hx k hk
    have hkey := halone.holder n c o h hn hheld k row hrow hu (hscope ▸ hacc)
    rw [hkey, hnone] at hrow
    cases hrow
  · obtain ⟨row, hrow, hacc, hmatch⟩ := (RowsInv.reached hg).row m d _ hm rfl (hbook.unsent m d o' hm).2
    have hdscope : d.scope = c.scope := (hg.admits _ _ _ hm).1.trans hscope.symm
    have hkey := halone.holder n c o h hn hheld d.key row hrow hmatch (hdscope ▸ hacc)
    rw [hkey, hnone] at hrow
    cases hrow

structure RoomInv (M : Int) (g : ExecGhost Desk) : Prop where
  limit : ((g.world.broker.positions.length + g.world.broker.inflight.length : Nat) : Int) ≤ M
  nodup : (g.world.broker.symbols ++ g.world.broker.inflight.map fun x => normalizeSymbol x.symbol).Nodup
  clear : ∀ n c o, g.runs n = some (c, .claimed o) → g.world.broker.inflight = []
  single : ∀ m n c d o o', g.runs m = some (c, .claimed o) → g.runs n = some (d, .claimed o') → m = n
  room : ∀ n c o, g.runs n = some (c, .claimed o) → (g.world.broker.positions.length : Int) < M ∧
    normalizeSymbol c.intent.symbol ∉ g.world.broker.symbols
  context : ∀ n c o h x, g.runs n = some (c, .held o h) → h.context = some x → x.maxOpenPositions = some M
  view : ∀ n c o h items, g.runs n = some (c, .held o h) → h.view = some items →
    g.world.store.HeldBy c.scope o → g.world.store.row c.key = none → ∃ ps : List Position, items = ps.map .position ∧
      g.world.broker.symbols.Subperm (ps.map fun p => normalizeSymbol p.symbol)

theorem RoomInv.start (w : ExecWorld Desk) (h : (execSystem (deskVenue account M)).init w) : RoomInv M (.start w) := by
  obtain ⟨hempty, hlen, hnodup, _⟩ := h.1
  refine ⟨?_, ?_, fun n c o hn => (by cases hn), fun m n c d o o' hm => (by cases hm), fun n c o hn => (by cases hn),
    fun n c o h x hn => (by cases hn), fun n c o h items hn => by cases hn⟩
  · rw [Ghost.start_world, hempty]
    simpa using hlen
  · rw [Ghost.start_world, hempty]
    simpa using hnodup

theorem RoomInv.spawn (h : RoomInv M g) (n : Nat) (i : SubmitCall) : RoomInv M (g.setRun n i .idle) :=
  ⟨h.limit, h.nodup, fun m c o hm => h.clear m c o (started_before hm (by simp)),
    fun m m' c d o o' hm hm' => h.single m m' c d o o' (started_before hm (by simp)) (started_before hm' (by simp)),
    fun m c o hm => h.room m c o (started_before hm (by simp)),
    fun m c o hd x hm => h.context m c o hd x (started_before hm (by simp)),
    fun m c o hd items hm => h.view m c o hd items (started_before hm (by simp))⟩

theorem RoomInv.room_of_passed {n : Nat} {o : String} {h : Held} (hr : RoomInv M g)
    (hn : g.runs n = some (c, .held o h)) (hheld : g.world.store.HeldBy c.scope o)
    (hnone : g.world.store.row c.key = none) (hp : passedOn c h) :
    (g.world.broker.positions.length : Int) < M ∧ normalizeSymbol c.intent.symbol ∉ g.world.broker.symbols := by
  obtain ⟨context, items, fresh, hctx, hitems, hfrom, hallowed⟩ := hp
  obtain ⟨ps, rfl, hsub⟩ := hr.view n c o h items hn hitems hheld hnone
  obtain ⟨judged, hjudged, hpassed⟩ := ExecutionPolicy.evaluate_allowed hallowed
  cases hjudged
  obtain ⟨_, _, positions, maxOpen, _, _, hpos, hmax, _, hlen, hdiff⟩ :=
    ExecutionPolicy.limitProblem_eq_none hpassed.limits
  cases hpos
  have hM : maxOpen = M := by
    have := hr.context n c o h context hn hctx
    exact Option.some.inj (hmax.symm.trans this)
  have hfresh := fromPositions_map_position hfrom
  have hcount := hsub.length_le
  rw [hfresh, length_map] at hlen
  rw [Desk.symbols, length_map, length_map] at hcount
  refine ⟨by omega, fun hmem => ?_⟩
  obtain ⟨p, hpmem, hsym⟩ := mem_map.1 (hsub.subset hmem)
  refine hdiff ⟨strip p.symbol, .member p.side⟩ ?_ ?_
  · rw [hfresh]
    exact mem_map_of_mem hpmem
  · rw [normalizeSymbol_strip]
    exact hsym

theorem claimed_before {o : String} (ha : Allowed c q r) (hx : Exec (deskVenue account M) w c r ans w')
    (hq' : phaseNext c q r ans = .claimed o) : w'.broker = w.broker ∧
      (q = .claimed o ∨ ∃ o' h, q = .held o' h ∧ w.store.row c.key = none ∧ passedOn c h ∧ w.store.HeldBy c.scope o') := by
  have hbroker : w'.broker = w.broker := by
    rcases deskEffect ha hx with ⟨hd, _⟩ | ⟨_, _, _, _, hnext, _⟩ | ⟨_, _, _, _, hnext, _⟩
    · exact hd
    · rw [hnext] at hq'
      cases hq'
    · rw [hnext] at hq'
      cases hq'
  refine ⟨hbroker, ?_⟩
  rcases claimed_next ha hq' with hq | hno
  · exact .inl hq
  · exact .inr (claim_finds ha hx hno (by rw [hq']; rfl))

theorem RoomInv.call {n : Nat} (h : RoomInv M g) (hg : ExecReached (deskVenue account M) g)
    (hn : g.runs n = some (c, q)) (ha : Allowed c q r) (hx : Exec (deskVenue account M) g.world c r ans w') :
    RoomInv M ((g.setRun n c (phaseNext c q r ans)).setWorld w') := by
  have halone := AloneInv.reached hg
  have pos : w'.broker.positions = g.world.broker.positions := positions_call ha hx
  have syms : w'.broker.symbols = g.world.broker.symbols := by rw [Desk.symbols, pos, Desk.symbols]
  refine ⟨?_, ?_, fun m d o hm => ?_, fun m m' d d' o o' hm hm' => ?_, fun m d o hm => ?_, fun m d o hd x hm hctx => ?_,
    fun m d o hd items hm hview hheld hnone => ?_⟩
  · rw [setWorld_world, pos]
    rcases deskEffect ha hx with ⟨hd, _⟩ | ⟨o, order, rfl, _, _, hw⟩ | ⟨_, _, _, _, _, hans, _⟩
    · rw [hd]
      exact h.limit
    · have hroom := (h.room n c o hn).1
      rw [hw, Desk.send_inflight, h.clear n c o hn]
      simp only [length_cons, length_nil]
      omega
    · have hle := hans.effect.2.1.length_le
      have := h.limit
      omega
  · rw [setWorld_world, syms]
    rcases deskEffect ha hx with ⟨hd, _⟩ | ⟨o, order, rfl, horder, _, hw⟩ | ⟨_, _, _, _, _, hans, _⟩
    · rw [hd]
      exact h.nodup
    · have hsym : normalizeSymbol order.symbol = normalizeSymbol c.intent.symbol := by
        rw [(SubmitCall.order?_eq_some horder).1, normalizeSymbol_strip]
      have hroom := (h.room n c o hn).2
      have hnodup := h.nodup
      rw [h.clear n c o hn] at hnodup
      rw [hw, Desk.send_inflight, h.clear n c o hn, map_cons, map_nil, hsym]
      refine nodup_append.2 ⟨by simpa using hnodup, nodup_singleton _, fun a ha b hb hab => hroom ?_⟩
      rw [← mem_singleton.1 hb, ← hab]
      exact ha
    · exact h.nodup.sublist ((List.Sublist.refl _).append (hans.effect.2.1.map _))
  · rcases setRun_cases hm with ⟨rfl, rfl, hq'⟩ | ⟨hne, hold⟩
    · obtain ⟨hbroker, hq | ⟨o', hd, rfl, hnone, _, hheld⟩⟩ := claimed_before ha hx hq'.symm
      · rw [setWorld_world, hbroker]
        exact h.clear m d o (hq ▸ hn)
      · rw [setWorld_world, hbroker]
        exact (under_reservation hg hn hheld hnone).1
    · have hclear := h.clear m d o hold
      rw [setWorld_world]
      rcases deskEffect ha hx with ⟨hd, _⟩ | ⟨o', _, rfl, _⟩ | ⟨_, _, _, _, _, hans, _⟩
      · rw [hd]
        exact hclear
      · exact absurd (h.single m n d c o o' hold hn) hne
      · exact sublist_nil.1 (hclear ▸ hans.effect.2.1)
  · -- a run that claims is alone, so it is the only one about to send
    have alone : ∀ {m d o}, m ≠ n → g.runs m = some (d, .claimed o) → ∀ o', phaseNext c q r ans = .claimed o' → False := by
      intro m d o hne hold o' hq'
      obtain ⟨_, rfl | ⟨o'', hd, rfl, hnone, _, hheld⟩⟩ := claimed_before ha hx hq'
      · exact hne (h.single m n d c o o' hold hn)
      · exact (under_reservation hg hn hheld hnone).2 m d o hold
    rcases setRun_cases hm with ⟨rfl, rfl, hq⟩ | ⟨hne, hold⟩ <;>
      rcases setRun_cases hm' with ⟨rfl, rfl, hq'⟩ | ⟨hne', hold'⟩
    · rfl
    · exact (alone hne' hold' o hq.symm).elim
    · exact (alone hne hold o' hq'.symm).elim
    · exact h.single m m' d d' o o' hold hold'
  · rw [setWorld_world, pos, syms]
    rcases setRun_cases hm with ⟨rfl, rfl, hq'⟩ | ⟨_, hold⟩
    · obtain ⟨_, hq | ⟨o', hd, rfl, hnone, hp, hheld⟩⟩ := claimed_before ha hx hq'.symm
      · exact h.room m d o (hq ▸ hn)
      · exact h.room_of_passed hn hheld hnone hp
    · exact h.room m d o hold
  · rcases setRun_cases hm with ⟨rfl, rfl, hq'⟩ | ⟨_, hold⟩
    · rcases (view_next ha hx hq'.symm).1 x hctx with ⟨h₀, rfl, hc⟩ | hc | hM
      · exact h.context m d o h₀ x hn hc
      · exact (hg.admits _ _ _ hn).2 x hc
      · exact hM
    · exact h.context m d o hd x hold hctx
  · rw [setWorld_world] at hheld hnone
    rw [setWorld_world, syms]
    have hnone₀ : g.world.store.row d.key = none := by
      by_contra hne
      have hsome := hx.row_isSome d.key (Option.isSome_iff_ne_none.2 hne)
      rw [hnone] at hsome
      cases hsome
    rcases Store.HeldBy.before ha hx hheld with hbefore | ⟨_, hdrawn⟩
    · rcases setRun_cases hm with ⟨rfl, rfl, hq'⟩ | ⟨_, hold⟩
      · rcases (view_next ha hx hq'.symm).2 items hview with ⟨h₀, rfl, hv⟩ | ⟨hitems, _⟩
        · exact h.view m d o h₀ items hn hv hbefore hnone₀
        · -- the positions have just been read
          refine ⟨_, hitems, List.Perm.subperm ?_⟩
          rw [Desk.symbols, map_map]
          exact List.Perm.refl _
      · exact h.view m d o hd items hold hview hbefore hnone₀
    · -- the reservation has just been acquired, by this run and with no view yet
      rcases setRun_cases hm with ⟨rfl, rfl, hq'⟩ | ⟨hne, hold⟩
      · rcases (view_next ha hx hq'.symm).2 items hview with ⟨h₀, hq, _⟩ | ⟨hitems, _⟩
        · rw [hdrawn] at hq
          cases hq
        · refine ⟨_, hitems, List.Perm.subperm ?_⟩
          rw [Desk.symbols, map_map]
          exact List.Perm.refl _
      · rw [hdrawn] at hn
        exact absurd (halone.owner_inj m n d c _ _ o hold hn rfl rfl) hne

theorem RoomInv.tick {b : Desk} (h : RoomInv M g) (hg : ExecReached (deskVenue account M) g)
    (ht : g.world.broker.Tick b) : RoomInv M (g.setWorld { g.world with broker := b }) := by
  cases ht with
  | opens order p ho hs =>
    have nonempty : g.world.broker.inflight ≠ [] := ne_nil_of_mem ho
    have hinflight : g.world.broker.inflight.Nodup := (nodup_append.1 h.nodup).2.1.of_map _
    -- the order moves from one list to the other
    have hperm : g.world.broker.inflight.Perm (order :: g.world.broker.inflight.filter (· ≠ order)) := by
      have hfilter : g.world.broker.inflight.filter (· != order) = g.world.broker.inflight.filter (· ≠ order) :=
        filter_congr fun x _ => by rw [decide_not]; rfl
      rw [← hfilter, ← hinflight.erase_eq_filter]
      exact perm_cons_erase ho
    have hlen := hperm.length_eq
    have hlimit := h.limit
    rw [length_cons] at hlen
    refine ⟨?_, ?_, fun n c o hn => absurd (h.clear n c o hn) nonempty, h.single,
      fun n c o hn => absurd (h.clear n c o hn) nonempty, h.context, fun n c o hd items hn _ hheld hnone =>
        absurd (under_reservation hg hn hheld hnone).1 nonempty⟩
    · simp only [setWorld_world, Desk.openPosition, length_cons]
      omega
    · have hmap := hperm.map fun x => normalizeSymbol x.symbol
      have hnodup := ((List.Perm.refl _).append hmap).nodup_iff.1 h.nodup
      rw [map_cons, List.perm_middle.nodup_iff, ← hs] at hnodup
      exact hnodup
  | vanishes positions hp =>
    have hsub := Desk.symbols_vanish hp
    have hlen := hp.length_le
    have hlimit := h.limit
    rw [length_map, length_map] at hlen
    refine ⟨?_, nodup_of_subperm ((subperm_append_right _).2 hsub) h.nodup, h.clear, h.single,
      fun n c o hn => ?_, h.context, fun n c o hd items hn hv hheld hnone => ?_⟩
    · simp only [setWorld_world]
      omega
    · obtain ⟨hroom, hsym⟩ := h.room n c o hn
      exact ⟨by simp only [setWorld_world]; omega, fun hmem => hsym (hsub.subset hmem)⟩
    · obtain ⟨ps, hitems, hview⟩ := h.view n c o hd items hn hv hheld hnone
      exact ⟨ps, hitems, hsub.trans hview⟩

theorem RoomInv.reached (hg : ExecReached (deskVenue account M) g) : RoomInv M g := by
  refine Reached.invariant RoomInv.start (fun g g' hr h hm => ?_) hg
  cases hm with
  | spawn n i hn hi => exact h.spawn n i
  | call r ans hn ha hx => exact h.call hr hn ha hx
  | tick hw =>
    obtain ⟨b, ht, rfl⟩ := hw
    exact h.tick hr ht

/-- **Positions stay within the limit, with distinct symbols**: in every configuration that concurrent submissions with
the limit `M` reach at a desk, whatever leases expire and whatever answers are lost, at most `M` positions are open and no
two have the same normalized symbol. -/
theorem positions_within_limit (account : String) (M : Int) (cfg : ExecConfig Desk)
    (h : ExecReachable (deskVenue account M) cfg) :
    (cfg.world.broker.positions.length : Int) ≤ M ∧
      (cfg.world.broker.positions.map fun p => normalizeSymbol p.position.symbol).Nodup := by
  refine h.world_invariant (I := fun w => (w.broker.positions.length : Int) ≤ M ∧
    (w.broker.positions.map fun p => normalizeSymbol p.position.symbol).Nodup) (fun c => ResultMeans c)
    (fun c _ => AsyncTradeExecutor.submit_conforms c) fun g hg => ?_
  have hinv := RoomInv.reached hg
  have hlimit := hinv.limit
  exact ⟨by omega, (List.nodup_append.1 hinv.nodup).1⟩

end

section
local instance limitsCase : CaseMap := asciiCase

def samplePosition (id symbol : String) : Position where
  positionId := id
  symbol
  side := .buy
  volume := 1
  openPrice := 100
  currentPrice := none
  profit := none
  stopLoss := none
  takeProfit := none
  openedAt := none
  magic := none
  comment := none

def losingDesk (context : Option ExecutionContext) : Script Desk where
  now := 0
  context
  positions d := .ok ((d.positions.map (·.position)).map .position)
  reconcile _ q := .ok (mt5Reconcile "mt5_demo" q none)
  invoke d order := d.send order
  answer d _ := (.error (.exception "timed out"), d)

def openDesk : Desk := ⟨[⟨samplePosition "p1" "GAINX1200", none⟩], []⟩

def lostAtDesk : ExecConfig Desk :=
  (losingDesk none).submitted 0 (sampleCall "PAINX1200" "k1" ["PAINX1200"] 2) (.start (startWorld openDesk))

def openedLate : ExecConfig Desk :=
  lostAtDesk.setWorld { lostAtDesk.world with
    broker := (lostAtDesk.world.broker.inflight.head?.elim lostAtDesk.world.broker fun order =>
      lostAtDesk.world.broker.openPosition order (samplePosition "p2" "painx1200")) }

theorem openedLate_reachable : ExecReachable (deskVenue "mt5:1001" 2) openedLate := by
  have permitted : Script.Permitted (deskVenue "mt5:1001" 2) (losingDesk none)
      (sampleCall "PAINX1200" "k1" ["PAINX1200"] 2) :=
    ⟨fun x hx => (by cases hx), fun d items h => (by cases h; rfl), fun d q r h hm => (by cases h; cases hm),
      fun d order => rfl, fun d order => .raised _ fun message h => by cases h⟩
  have hstart : (deskVenue "mt5:1001" 2).starts .empty openDesk :=
    ⟨rfl, by decide, by decide, fun order horder => by cases horder⟩
  have hlost : ExecReachable (deskVenue "mt5:1001" 2) lostAtDesk :=
    permitted.reachable (n := 0) ⟨by decide, fun x hx => by cases hx; rfl⟩ (.init (startWorld_init _ openDesk hstart)) rfl
  obtain ⟨order, horder⟩ : ∃ order, lostAtDesk.world.broker.inflight.head? = some order :=
    Option.isSome_iff_exists.1 (by decide +kernel)
  refine hlost.step (.tick ⟨_, ?_, rfl⟩)
  rw [horder]
  have hsym : lostAtDesk.world.broker.inflight.head?.map (·.symbol) = some "PAINX1200" := by decide +kernel
  rw [horder, Option.map_some, Option.some.injEq] at hsym
  exact .opens order _ (mem_of_mem_head? horder) (by rw [hsym]; decide +kernel)

/-- The limit of two is reached, and not passed. -/
theorem positions_within_limit_late : openedLate.world.broker.positions.length = 2 ∧
    (openedLate.world.broker.positions.length : Int) ≤ 2 ∧
    (openedLate.world.broker.positions.map fun p => normalizeSymbol p.position.symbol).Nodup :=
  ⟨by decide +kernel, positions_within_limit "mt5:1001" 2 openedLate openedLate_reachable⟩

end

end Jqe
