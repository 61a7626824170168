import Mathlib.Data.Set.Card
import Waymark.Shutdown
import Waymark.Proofs.OrderedMap

/-! # No signal is lost or invented

The channel keeps one signal, and a subscriber polls when it likes. At any time the signals that a
subscriber has read, those that it knows to be lost and those that it has not read are together as
many as were sent since it subscribed, whatever other subscribers do and whether or not the channel
is closed in the meantime.
-/

namespace Waymark

/-- How many signals were lost, as a poll tells. -/
def Poll.lost : Poll → Nat
  | .lagged count => count
  | _ => 0

/-- How many signals some polls account for, as read or as lost. -/
def Poll.accounted (polls : List Poll) : Nat :=
  polls.count .signal + (polls.map Poll.lost).sum

namespace Shutdown

/-- What can happen to a channel. -/
inductive Action where
  | subscribe (name : String)
  | unsubscribe (name : String)
  | trigger
  | poll (name : String)
  | close
deriving DecidableEq

/-- An action neither begins nor ends a subscription of a name. -/
def Action.Leaves (name : String) (action : Action) : Prop :=
  action ≠ .subscribe name ∧ action ≠ .unsubscribe name

/-- What an action makes of a channel. -/
def step (s : Shutdown) : Action → Shutdown
  | .subscribe name => s.subscribe name
  | .unsubscribe name => s.unsubscribe name
  | .trigger => s.trigger
  | .poll name => (s.poll name).2
  | .close => s.close

/-- The channel after some actions. -/
def run (s : Shutdown) (actions : List Action) : Shutdown := actions.foldl step s

/-- What the subscriber of a name learns by an action. -/
def answer (s : Shutdown) (name : String) : Action → List Poll
  | .poll other => if other = name then [(s.poll name).1] else []
  | _ => []

/-- What the subscriber of a name learns in the course of some actions, in order. -/
def answers (name : String) : Shutdown → List Action → List Poll
  | _, [] => []
  | s, action :: actions => s.answer name action ++ answers name (s.step action) actions

/-- There is a subscription of a name, and it has not read what was not sent. -/
def Reads (s : Shutdown) (name : String) : Prop :=
  ∃ next ≤ s.sent, s.subscribers.get? name = some next

/-- Between two states of a channel the subscriber of a name has learned from some polls and some
signals were sent: what it has learned and not read is what it had not read and was sent. -/
structure Accounts (s s' : Shutdown) (name : String) (polls : List Poll) (sent : Nat) : Prop where
  reads : s'.Reads name
  balance : Poll.accounted polls + s'.unread name = s.unread name + sent

variable {s s' s'' : Shutdown} {name other : String} {action : Action}
  {actions before during : List Action}

theorem run_append (s : Shutdown) (actions more : List Action) :
    s.run (actions ++ more) = (s.run actions).run more :=
  List.foldl_append

/-! ## One action -/

theorem unread_of_get? {next : Nat} (h : s.subscribers.get? name = some next) :
    s.unread name = s.sent - next := by
  unfold unread
  rw [h]

/-- What a subscriber has not read depends on the signals and its own place. -/
theorem unread_congr (hsent : s'.sent = s.sent)
    (hget : s'.subscribers.get? name = s.subscribers.get? name) :
    s'.unread name = s.unread name := by
  unfold unread
  rw [hget, hsent]

/-- What changes neither the signals nor the place of a subscriber tells it nothing. -/
theorem Reads.congr (h : s.Reads name) (hsent : s'.sent = s.sent)
    (hget : s'.subscribers.get? name = s.subscribers.get? name) : Accounts s s' name [] 0 := by
  obtain ⟨next, hle, hnext⟩ := h
  refine ⟨⟨next, hsent ▸ hle, hget.trans hnext⟩, ?_⟩
  rw [unread_congr hsent hget]
  exact Nat.zero_add _

/-- A poll changes nothing but the place of its own subscriber. -/
theorem poll_cases (s : Shutdown) (name : String) :
    (s.poll name).2 = s ∨ s.subscribers.contains name = true ∧
      ∃ next, (s.poll name).2 = { s with subscribers := s.subscribers.insert name next } := by
  have hcontains : s.unread name ≠ 0 → s.subscribers.contains name = true := by
    unfold unread
    split
    next hget => exact fun _ => by simp [OrderedMap.contains, hget]
    next => exact fun h => absurd rfl h
  unfold poll
  split
  next => exact .inl rfl
  next hone => exact .inr ⟨hcontains (by omega), _, rfl⟩
  next htwo => exact .inr ⟨hcontains (by omega), _, rfl⟩

theorem sent_poll (s : Shutdown) (name : String) : (s.poll name).2.sent = s.sent := by
  obtain h | ⟨-, next, h⟩ := poll_cases s name <;> rw [h]

theorem closed_poll (s : Shutdown) (name : String) : (s.poll name).2.closed = s.closed := by
  obtain h | ⟨-, next, h⟩ := poll_cases s name <;> rw [h]

theorem get?_poll_of_ne (s : Shutdown) (hne : other ≠ name) :
    (s.poll other).2.subscribers.get? name = s.subscribers.get? name := by
  obtain h | ⟨-, next, h⟩ := poll_cases s other
  · rw [h]
  · rw [h]
    exact (OrderedMap.get?_insert ..).trans (if_neg hne)

theorem keys_poll (s : Shutdown) (name : String) :
    (s.poll name).2.subscribers.keys = s.subscribers.keys := by
  obtain h | ⟨hcontains, next, h⟩ := poll_cases s name
  · rw [h]
  · rw [h]
    exact (OrderedMap.keys_insert ..).trans (if_pos (OrderedMap.contains_iff.mp hcontains))

/-- What a poll accounts for is no longer unread. -/
theorem Reads.poll (h : s.Reads name) :
    Accounts s (s.poll name).2 name [(s.poll name).1] 0 := by
  obtain ⟨next, hle, hnext⟩ := h
  have hwrite : ∀ place,
      (s.subscribers.insert name place).get? name = some place := by
    intro place
    exact (OrderedMap.get?_insert ..).trans (if_pos rfl)
  unfold Shutdown.poll
  split
  next hzero =>
    refine ⟨⟨next, hle, hnext⟩, ?_⟩
    cases hclosed : s.closed <;> simp [Poll.accounted, Poll.lost]
  next hone =>
    refine ⟨⟨s.sent, Nat.le_refl _, hwrite _⟩, ?_⟩
    rw [unread_of_get? (hwrite _), hone]
    simp [Poll.accounted, Poll.lost]
  next lost htwo =>
    have hunread := unread_of_get? hnext
    refine ⟨⟨s.sent - 1, Nat.sub_le _ _, hwrite _⟩, ?_⟩
    rw [unread_of_get? (hwrite _), htwo]
    simp [Poll.accounted, Poll.lost]
    omega

theorem Reads.trigger (h : s.Reads name) : Accounts s s.trigger name [] 1 := by
  obtain ⟨next, hle, hnext⟩ := h
  refine ⟨⟨next, Nat.le_succ_of_le hle, hnext⟩, ?_⟩
  rw [unread_of_get? hnext, unread_of_get? (s := s.trigger) hnext]
  simp only [Shutdown.trigger, Poll.accounted]
  simp
  omega

/-- An action of somebody else tells a subscriber nothing, its own polls account for what they
read, and a signal is one more to read. -/
theorem Reads.step (h : s.Reads name) (hleaves : action.Leaves name) :
    Accounts s (s.step action) name (s.answer name action) ([action].count .trigger) := by
  cases action with
  | subscribe other =>
      have hne : other ≠ name := fun heq => hleaves.1 (congrArg _ heq)
      refine h.congr rfl ?_
      exact (OrderedMap.get?_insert ..).trans ((if_neg hne).trans (OrderedMap.get?_erase_ne hne))
  | unsubscribe other =>
      have hne : other ≠ name := fun heq => hleaves.2 (congrArg _ heq)
      exact h.congr rfl (OrderedMap.get?_erase_ne hne)
  | trigger => exact h.trigger
  | poll other =>
      by_cases heq : other = name
      · subst heq
        rw [answer, if_pos rfl]
        exact h.poll
      · rw [answer, if_neg heq]
        exact h.congr (sent_poll s other) (get?_poll_of_ne s heq)
  | close => exact h.congr rfl rfl

/-- A channel is closed by closing it and by nothing else. -/
theorem closed_step : (s.step action).closed = true ↔ s.closed = true ∨ action = .close := by
  cases action with
  | poll other =>
      rw [step, closed_poll]
      simp
  | close => simp [step, close]
  | subscribe | unsubscribe | trigger => simp [step, subscribe, unsubscribe, trigger]

theorem mem_keys_step : name ∈ (s.step action).subscribers.keys ↔
    action = .subscribe name ∨ name ∈ s.subscribers.keys ∧ action.Leaves name := by
  cases action with
  | subscribe other =>
      refine OrderedMap.mem_keys_insert.trans ?_
      rw [OrderedMap.mem_keys_erase]
      simp [Action.Leaves, eq_comm]
  | unsubscribe other =>
      refine OrderedMap.mem_keys_erase.trans ?_
      simp [Action.Leaves, eq_comm]
  | poll other =>
      rw [step, keys_poll]
      simp [Action.Leaves]
  | trigger | close => simp [step, trigger, close, Action.Leaves]

/-! ## Many actions -/

theorem accounted_append (first second : List Poll) :
    Poll.accounted (first ++ second) = Poll.accounted first + Poll.accounted second := by
  simp only [Poll.accounted, List.count_append, List.map_append, List.sum_append]
  omega

theorem Accounts.trans {polls more : List Poll} {sent sent' : Nat}
    (h : Accounts s s' name polls sent) (h' : Accounts s' s'' name more sent') :
    Accounts s s'' name (polls ++ more) (sent + sent') := by
  have hbalance := h.balance
  have hbalance' := h'.balance
  refine ⟨h'.reads, ?_⟩
  rw [accounted_append]
  omega

theorem Reads.run (h : s.Reads name) (hleaves : ∀ action ∈ actions, action.Leaves name) :
    Accounts s (s.run actions) name (answers name s actions) (actions.count .trigger) := by
  induction actions generalizing s with
  | nil => exact h.congr rfl rfl
  | cons action actions ih =>
      obtain ⟨hfirst, hrest⟩ := List.forall_mem_cons.mp hleaves
      have hstep := h.step hfirst
      have hcount : (action :: actions).count .trigger =
          [action].count .trigger + actions.count .trigger :=
        @List.count_append _ _ _ [action] actions
      rw [hcount]
      exact hstep.trans (ih hstep.reads hrest)

theorem closed_run : (s.run actions).closed = true ↔ s.closed = true ∨ .close ∈ actions := by
  induction actions generalizing s with
  | nil => simp [run]
  | cons action actions ih =>
      change ((s.step action).run actions).closed = true ↔ _
      rw [ih, closed_step, or_assoc, List.mem_cons, eq_comm (a := action)]

/-- What a poll tells depends on what is unread, and on whether the channel is closed. -/
theorem poll_congr (hunread : s.unread name = s'.unread name) (hclosed : s.closed = s'.closed) :
    (s.poll name).1 = (s'.poll name).1 := by
  unfold poll
  rw [← hunread, ← hclosed]
  split <;> rfl

/-- Two channels on which a subscriber has as much to read tell it the same. -/
theorem answers_congr (h : s.Reads name) (h' : s'.Reads name)
    (hunread : s.unread name = s'.unread name) (hclosed : s.closed = s'.closed)
    (hleaves : ∀ action ∈ actions, action.Leaves name) :
    answers name s actions = answers name s' actions := by
  induction actions generalizing s s' with
  | nil => rfl
  | cons action actions ih =>
      obtain ⟨hfirst, hrest⟩ := List.forall_mem_cons.mp hleaves
      obtain ⟨hreads, hbalance⟩ := h.step hfirst
      obtain ⟨hreads', hbalance'⟩ := h'.step hfirst
      have hanswer : s.answer name action = s'.answer name action := by
        cases action with
        | poll other => simp only [answer, poll_congr hunread hclosed]
        | _ => rfl
      have hclosed' : (s.step action).closed = (s'.step action).closed := by
        rw [Bool.eq_iff_iff, closed_step, closed_step, hclosed]
      rw [answers, answers, hanswer]
      rw [hanswer] at hbalance
      exact congrArg _ (ih hreads hreads' (by omega) hclosed' hrest)

/-! ## Subscriptions -/

/-- A subscription of a name is live behind some actions, with those before it and those since. -/
structure Subscription (actions : List Action) (name : String) (before during : List Action) :
    Prop where
  eq_append : actions = before ++ .subscribe name :: during
  leaves : ∀ action ∈ during, action.Leaves name

/-- There is a live subscription of a name behind some actions. -/
def Live (actions : List Action) (name : String) : Prop :=
  ∃ before during, Subscription actions name before during

theorem live_append_singleton : Live (actions ++ [action]) name ↔
    action = .subscribe name ∨ Live actions name ∧ action.Leaves name := by
  constructor
  · rintro ⟨before, during, heq, hleaves⟩
    obtain rfl | ⟨during, last, rfl⟩ := List.eq_nil_or_concat during
    · obtain ⟨-, hlast⟩ := List.append_inj' heq rfl
      exact .inl (List.cons.inj hlast).1
    · rw [List.concat_eq_append] at heq hleaves
      rw [← List.cons_append, ← List.append_assoc] at heq
      obtain ⟨hactions, hlast⟩ := List.append_inj' heq rfl
      cases hlast
      refine .inr ⟨⟨before, during, hactions, fun action hmem => hleaves action ?_⟩,
        hleaves action ?_⟩
      · exact List.mem_append_left _ hmem
      · simp
  · rintro (rfl | ⟨⟨before, during, rfl, hleaves⟩, hlast⟩)
    · exact ⟨actions, [], rfl, nofun⟩
    · refine ⟨before, during ++ [action], by simp, fun other hmem => ?_⟩
      rcases List.mem_append.mp hmem with hmem | hmem
      · exact hleaves other hmem
      · rw [List.mem_singleton.mp hmem]
        exact hlast

theorem mem_keys_run_iff_live :
    name ∈ (open_.run actions).subscribers.keys ↔ Live actions name := by
  induction actions using List.reverseRecOn with
  | nil =>
      constructor
      · nofun
      · rintro ⟨before, during, heq, -⟩
        simp at heq
  | append_singleton actions action ih =>
      rw [run_append, live_append_singleton, ← ih]
      exact mem_keys_step

/-- The subscribers that a channel counts are the live subscriptions. -/
theorem count_run (actions : List Action) :
    (open_.run actions).count = {name | Live actions name}.ncard := by
  have hkeys : {name | Live actions name} =
      ((open_.run actions).subscribers.keys.toFinset : Set String) := by
    ext name
    rw [Finset.mem_coe, List.mem_toFinset, mem_keys_run_iff_live]
    rfl
  have hnodup : (open_.run actions).subscribers.keys.Nodup :=
    (open_.run actions).subscribers.nodup_keys
  rw [hkeys, Set.ncard_coe_finset, List.toFinset_card_of_nodup hnodup, OrderedMap.length_keys]
  rfl

/-! ## All histories -/

/-- What the subscriber of a name learns in the course of some actions if it has subscribed just
before them and behind others. -/
def learned (name : String) (before during : List Action) : List Poll :=
  answers name ((open_.run before).subscribe name) during

theorem reads_subscribe (s : Shutdown) (name : String) : (s.subscribe name).Reads name :=
  ⟨s.sent, Nat.le_refl _, (OrderedMap.get?_insert ..).trans (if_pos rfl)⟩

/-- A new subscriber has nothing to read. -/
theorem unread_subscribe (s : Shutdown) (name : String) : (s.subscribe name).unread name = 0 := by
  obtain ⟨next, hle, hnext⟩ := reads_subscribe s name
  rw [unread_of_get? ((OrderedMap.get?_insert ..).trans (if_pos rfl))]
  exact Nat.sub_self s.sent

theorem run_subscription (h : Subscription actions name before during) :
    open_.run actions = ((open_.run before).subscribe name).run during := by
  rw [h.eq_append, run_append]
  rfl

/-- What was learned and what is unread is what was sent since the subscription. -/
theorem accounted_learned (h : Subscription actions name before during) :
    Poll.accounted (learned name before during) + (open_.run actions).unread name =
      during.count .trigger := by
  have hbalance := ((reads_subscribe (open_.run before) name).run h.leaves).balance
  rw [unread_subscribe, Nat.zero_add] at hbalance
  rw [run_subscription h]
  exact hbalance

theorem poll_eq_empty_iff :
    (s.poll name).1 = .empty ↔ s.closed = false ∧ s.unread name = 0 := by
  unfold poll
  split
  next hzero => cases hclosed : s.closed <;> simp [hzero]
  next hone => simp [hone]
  next htwo => simp [htwo]

theorem poll_eq_closed_iff :
    (s.poll name).1 = .closed ↔ s.closed = true ∧ s.unread name = 0 := by
  unfold poll
  split
  next hzero => cases hclosed : s.closed <;> simp [hzero]
  next hone => simp [hone]
  next htwo => simp [htwo]

theorem closed_run_open : (open_.run actions).closed = true ↔ .close ∈ actions :=
  closed_run.trans (or_iff_right nofun)

/-- What the subscribers of a channel know, in the course of some actions. -/
structure Conserves (actions : List Action) : Prop where
  /-- Signals that were read, signals that are known to be lost and signals that are unread are as
  many as were sent since the subscription. -/
  conserved : ∀ name before during, Subscription actions name before during →
    Poll.accounted (learned name before during) + (open_.run actions).unread name =
      during.count .trigger
  /-- A poll finds nothing exactly if all these signals have been accounted for, -/
  empty_iff : ∀ name before during, Subscription actions name before during →
    (((open_.run actions).poll name).1 = .empty ↔
      .close ∉ actions ∧ Poll.accounted (learned name before during) = during.count .trigger)
  /-- and the same holds for the end of the channel once it is closed. -/
  closed_iff : ∀ name before during, Subscription actions name before during →
    (((open_.run actions).poll name).1 = .closed ↔
      .close ∈ actions ∧ Poll.accounted (learned name before during) = during.count .trigger)
  /-- What happened before the subscription makes no difference to what is learned, -/
  forgets : ∀ name before during, Subscription actions name before during →
    ∀ other, (.close ∈ other ↔ .close ∈ before) → learned name other during =
      learned name before during
  /-- and subscribers are counted as long as they are subscribed. -/
  counted : (open_.run actions).count = {name | Live actions name}.ncard

/-- Whatever happens to a channel, no signal is lost and none is invented. -/
theorem run_conserves (actions : List Action) : Conserves actions where
  conserved _ _ _ h := accounted_learned h
  empty_iff name before during h := by
    have haccounts := accounted_learned h
    rw [poll_eq_empty_iff, ← Bool.not_eq_true, closed_run_open]
    exact and_congr_right fun _ => by omega
  closed_iff name before during h := by
    have haccounts := accounted_learned h
    rw [poll_eq_closed_iff, closed_run_open]
    exact and_congr_right fun _ => by omega
  forgets name before during h other hclose := by
    refine answers_congr (reads_subscribe _ name) (reads_subscribe _ name) ?_ ?_ h.leaves
    · rw [unread_subscribe, unread_subscribe]
    · rw [Bool.eq_iff_iff]
      exact closed_run_open.trans (hclose.trans closed_run_open.symm)
  counted := count_run actions

/-- A signal to nobody, and then two tasks of which one comes late and the other is slow. -/
def slowTaskRun : List Action :=
  [.trigger, .subscribe "slow", .trigger, .subscribe "late", .trigger, .trigger, .poll "slow",
    .poll "late", .trigger, .close, .poll "slow"]

/-- The slow task knows of two lost signals and of one more, and has one to read, although the
channel is closed: four signals were sent since it subscribed. -/
theorem run_conserves_slowTask :
    Subscription slowTaskRun "slow" [.trigger] (slowTaskRun.drop 2) ∧
      learned "slow" [.trigger] (slowTaskRun.drop 2) = [.lagged 2, .lagged 1] ∧
      (open_.run slowTaskRun).unread "slow" = 1 ∧
      ((open_.run slowTaskRun).poll "slow").1 ≠ .closed ∧
      {name | Live slowTaskRun name}.ncard = 2 := by
  have hsubscription :
      Subscription slowTaskRun "slow" [.trigger] (slowTaskRun.drop 2) := by
    refine ⟨rfl, ?_⟩
    simp only [Action.Leaves]
    decide
  have hlearned : learned "slow" [.trigger] (slowTaskRun.drop 2) = [.lagged 2, .lagged 1] := by
    decide
  have hconserves := run_conserves slowTaskRun
  refine ⟨hsubscription, hlearned, ?_, ?_, ?_⟩
  · have hconserved := hconserves.conserved _ _ _ hsubscription
    rw [hlearned] at hconserved
    exact Nat.add_left_cancel (n := 3) hconserved
  · rw [ne_eq, hconserves.closed_iff _ _ _ hsubscription, hlearned]
    decide
  · rw [← hconserves.counted]
    decide

end Shutdown

end Waymark
