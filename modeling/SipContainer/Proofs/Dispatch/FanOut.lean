import SipContainer.Proofs.Dispatch.Bookkeeping
import SipContainer.Proofs.Dispatch.Branches
import SipContainer.Proofs.Dispatch.Handling
/-!
A PRACK on a forked dialog of which no branch has won yet. Once the application has taken it, it goes to
the branches that wait for one, each of them once and in the order in which they were added, until the
first that does not pass it on. A branch that has passed it on does not wait any longer. Nothing else
about the proxy changes.

What has been done by then is told by the stage that the task has come to, in a run in which others
leave the proxy alone.
-/

namespace SipContainer

namespace Reactions

def conduct? (reactions : Reactions) : Stage → Option Conduct
  | .serving _ => some reactions.application
  | .forwarding leg => some (reactions.branch leg.branch)
  | _ => none

def team (reactions : Reactions) (responder : Conduct) : Team where
  application := reactions.application
  branch leg := reactions.branch leg.branch
  responder := responder

end Reactions

def Leg.stateless? : Leg → Option (Nat × Nat)
  | final _ _ => none
  | fanOut proxy branch _ => some (proxy, branch)

def Effect.leg? (number : Nat) : Effect → Option Leg
  | forwarded task leg => if task = number then some leg else none
  | _ => none

def legs (number : Nat) (effects : List Effect) : List Leg :=
  effects.filterMap (Effect.leg? number)

/-- A task has failed: its fault has been answered, or is left to whoever looks after it. -/
def Failed (number : Nat) (effects : List Effect) (stage : Stage) : Prop :=
  ∃ fault, .responded number fault ∈ effects ∨ stage = .finished (.failed fault)

theorem legs_append (number : Nat) (early late : List Effect) :
    legs number (early ++ late) = legs number early ++ legs number late :=
  List.filterMap_append

/-! ### How far a request has got -/

def Stage.isOver : Stage → Bool
  | responding _ | finished _ => true
  | _ => false

/-- What has become of a request that goes to the branches of a proxy, when its task has got to a
stage: the branches that have been asked, the proxy as it is now, and whether the task has failed. -/
inductive Fanned (place : Nat) (proxy : Proxy) (reactions : Reactions) :
    Stage → List Nat → Proxy → Bool → Prop
  | ahead {stage : Stage} (ahead : stage.isAhead = true) :
      Fanned place proxy reactions stage [] proxy false
  | serving : Fanned place proxy reactions (.serving (.fanOut place)) [] proxy false
  | forwarding {done others : List Nat} {branch : Nat} {now : Proxy}
      (succeeds : reactions.application = .success)
      (passed : ∀ other ∈ done, reactions.branch other = .success)
      (split : proxy.awaiting =
        done ++ branch :: (now.setAwaits branch false).awaitingAmong others)
      (relieved : proxy.Relieved done now) :
      Fanned place proxy reactions (.forwarding (.fanOut place branch others)) (done ++ [branch])
        now false
  | refused {stage : Stage} (fails : reactions.application ≠ .success)
      (gone : stage.isOver = true) : Fanned place proxy reactions stage [] proxy true
  | through {now : Proxy} (succeeds : reactions.application = .success)
      (passed : ∀ other ∈ proxy.awaiting, reactions.branch other = .success)
      (relieved : proxy.Relieved proxy.awaiting now) :
      Fanned place proxy reactions (.finished .completed) proxy.awaiting now false
  | stopped {stage : Stage} {done rest : List Nat} {branch : Nat} {now : Proxy}
      (succeeds : reactions.application = .success)
      (passed : ∀ other ∈ done, reactions.branch other = .success)
      (fails : reactions.branch branch ≠ .success) (split : proxy.awaiting = done ++ branch :: rest)
      (relieved : proxy.Relieved done now) (gone : stage.isOver = true) :
      Fanned place proxy reactions stage (done ++ [branch]) now true
  | cancelled {asked done : List Nat} {now : Proxy} {fallen : Bool}
      (within : asked <+: reactions.asked proxy.awaiting)
      (passed : done <+: reactions.passing proxy.awaiting) (relieved : proxy.Relieved done now) :
      Fanned place proxy reactions (.finished .cancelled) asked now fallen

namespace Fanned

variable {place : Nat} {proxy now : Proxy} {reactions : Reactions} {stage : Stage}
  {asked : List Nat} {fallen : Bool}
  (fanned : Fanned place proxy reactions stage asked now fallen)

include fanned

theorem ne_early : stage ≠ .created ∧ stage ≠ .waiting := by
  cases fanned with
  | ahead ahead => constructor <;> rintro rfl <;> cases ahead
  | serving | forwarding | through | cancelled => exact ⟨nofun, nofun⟩
  | refused _ gone | stopped _ _ _ _ _ gone => constructor <;> rintro rfl <;> cases gone

theorem of_isAhead (ahead : stage.isAhead = true) : asked = [] ∧ now = proxy ∧ fallen = false := by
  cases fanned with
  | ahead => exact ⟨rfl, rfl, rfl⟩
  | serving | forwarding | through | cancelled => cases ahead
  | refused _ gone | stopped _ _ _ _ _ gone => cases stage <;> cases ahead <;> cases gone

theorem standing (inside : stage.isInside = true) : fallen = false := by
  cases fanned with
  | ahead | serving | forwarding => rfl
  | through | cancelled => cases inside
  | refused _ gone | stopped _ _ _ _ _ gone => cases stage <;> cases inside <;> cases gone

/-- At any time no branch has been asked but those that will have been asked in the end, and none has
stopped waiting but those that pass the request on. -/
theorem within :
    asked <+: reactions.asked proxy.awaiting ∧
      ∃ done, done <+: reactions.passing proxy.awaiting ∧ proxy.Relieved done now := by
  cases fanned with
  | ahead | serving | refused => exact ⟨List.nil_prefix, [], List.nil_prefix, .refl proxy⟩
  | forwarding succeeds passed split relieved | stopped succeeds passed _ split relieved =>
      rw [split, Reactions.asked_append succeeds passed, Reactions.asked_cons succeeds,
        Reactions.passing_append succeeds passed, List.prefix_append_right_inj]
      exact ⟨List.prefix_append [_] _, _, List.prefix_append _ _, relieved⟩
  | through succeeds passed relieved =>
      rw [Reactions.asked_eq_self succeeds passed, Reactions.passing_eq_self succeeds passed]
      exact ⟨List.prefix_rfl, _, List.prefix_rfl, relieved⟩
  | cancelled within passed relieved => exact ⟨within, _, passed, relieved⟩

/-- In the end exactly those branches have been asked that are up to the first one that fails, and
exactly those before it have stopped waiting. -/
theorem settled (out : stage.isInside = false) (carried : stage ≠ .finished .cancelled) :
    asked = reactions.asked proxy.awaiting ∧
      proxy.Relieved (reactions.passing proxy.awaiting) now ∧
      (fallen = true ↔ reactions.application ≠ .success ∨
        ∃ branch ∈ asked, reactions.branch branch ≠ .success) := by
  cases fanned with
  | ahead ahead =>
      rw [Stage.isInside_of_isAhead ahead] at out
      cases out
  | serving | forwarding => cases out
  | refused fails =>
      rw [Reactions.asked_of_failure fails, Reactions.passing_of_failure fails]
      exact ⟨rfl, .refl proxy, by simp [fails]⟩
  | through succeeds passed relieved =>
      rw [Reactions.asked_eq_self succeeds passed, Reactions.passing_eq_self succeeds passed]
      refine ⟨rfl, relieved, ?_⟩
      simpa [succeeds] using passed
  | stopped succeeds passed fails split relieved =>
      rw [split, Reactions.asked_append succeeds passed, Reactions.passing_append succeeds passed,
        Reactions.asked_cons_of_failure succeeds fails, Reactions.passing_cons_of_failure fails,
        List.append_nil]
      exact ⟨rfl, relieved, by simp [fails]⟩
  | cancelled => exact absurd rfl carried

end Fanned

namespace Task

variable {number place : Nat} {task : Task} {proxies : List Proxy} {now : Proxy}
  {branch : Nat} {branches others : List Nat}

theorem fanOut_of_next (held : proxies[place]? = some now)
    (next : now.nextAwaiting? branches = some (branch, others)) :
    task.fanOut number proxies place branches =
      task.forward number (.fanOut place branch others) := by
  simp only [fanOut, held, Option.bind_some, next]

theorem fanOut_of_none (held : proxies[place]? = some now)
    (exhausted : now.nextAwaiting? branches = none) :
    task.fanOut number proxies place branches = task.exit number none := by
  simp only [fanOut, held, Option.bind_some, exhausted]

theorem exit_isOver (number : Nat) (task : Task) (fault : Option DispatchError) :
    (task.exit number fault).stage.isOver = true := by
  rcases task.exit_stage number fault with completed | ⟨cause, answers | failed⟩
  · rw [completed]
    rfl
  · rw [answers]
    rfl
  · rw [failed]
    rfl

theorem failed_exit (number : Nat) (task : Task) (fault : DispatchError) :
    Failed number (task.exit number (some fault)).effects
      (task.exit number (some fault)).stage := by
  refine ⟨fault, ?_⟩
  simp only [exit, fail]
  split
  · exact Or.inl List.mem_cons_self
  · exact Or.inr rfl

theorem legs_exit (number : Nat) (task : Task) (fault : Option DispatchError) :
    legs number (task.exit number fault).effects = [] := by
  apply List.filterMap_eq_nil_iff.mpr
  intro effect seen
  obtain ⟨cause, rfl, _⟩ := task.exit_effects number fault seen
  rfl

end Task

namespace Container

structure Adds (container : Container) (number place : Nat) (proxy : Proxy) (reactions : Reactions)
    (asked : List Nat) (outcome : Outcome) (more : List Nat) (after : Proxy) (fallen : Bool) :
    Prop where
  held : (outcome.proxies container.proxies)[place]? = some after
  fanned : Fanned place proxy reactions outcome.stage (asked ++ more) after fallen
  legs : (legs number outcome.effects).map Leg.stateless? =
    more.map (fun branch => some (place, branch))
  failed : fallen = true ↔ Failed number outcome.effects outcome.stage

variable {container : Container} {number place : Nat} {task : Task} {proxy now : Proxy}
  {reactions : Reactions} {done asked : List Nat} {outcome : Outcome} {step : Step}

theorem adds_of_fanOut (proxies : List Proxy → List Proxy) (rest : List Nat)
    (held : (proxies container.proxies)[place]? = some now)
    (succeeds : reactions.application = .success)
    (passed : ∀ other ∈ done, reactions.branch other = .success)
    (split : proxy.awaiting = done ++ now.awaitingAmong rest) (relieved : proxy.Relieved done now) :
    ∃ more fallen, container.Adds number place proxy reactions done
      { task.fanOut number (proxies container.proxies) place rest with proxies } more now
      fallen := by
  cases next : now.nextAwaiting? rest with
  | none =>
      rw [Task.fanOut_of_none held next]
      rw [Proxy.awaitingAmong_of_none next, List.append_nil] at split
      refine ⟨[], false, held, ?_, rfl, by simp [Failed, Task.exit, Task.conclude, Task.reach]⟩
      rw [List.append_nil, ← split]
      exact .through succeeds (split ▸ passed) (split ▸ relieved)
  | some found =>
      obtain ⟨branch, others⟩ := found
      rw [Task.fanOut_of_next held next]
      rw [Proxy.awaitingAmong_of_next next] at split
      refine ⟨[branch], false, held, .forwarding succeeds passed split relieved, ?_, ?_⟩
      · simp [legs, Task.forward, Effect.leg?, Leg.stateless?]
      · simp [Failed, Task.forward, Task.reach]

theorem adds_of_fault (held : container.proxies[place]? = some now) (fault : DispatchError)
    (fanned : ∀ stage : Stage, stage.isOver = true →
      Fanned place proxy reactions stage asked now true) :
    container.Adds number place proxy reactions asked (task.exit number (some fault)) [] now true
    where
  held := by
    rw [task.exit_proxies]
    exact held
  fanned := by
    rw [List.append_nil]
    exact fanned _ (task.exit_isOver number _)
  legs := by
    rw [task.legs_exit]
    rfl
  failed := iff_of_true rfl (task.failed_exit number fault)

theorem served_fanOut (held : container.proxies[place]? = some proxy) (number : Nat) (task : Task) :
    container.served number task (.fanOut place) .success =
      { task.fanOut number (id container.proxies) place proxy.order with proxies := id } := by
  simp only [served, Conduct.failure?, held, Option.map_some, Option.getD_some, id]
  rcases task.fanOut_cases number container.proxies place proxy.order with ⟨leg, same⟩ | same
  · rw [same]
    rfl
  · rw [same]
    rfl

theorem forwarded_fanOut (container : Container) (number : Nat) (task : Task) (place branch : Nat)
    (others : List Nat) :
    let proxies : List Proxy → List Proxy := (·.modify place (·.setAwaits branch false))
    container.forwarded number task (.fanOut place branch others) .success =
      { task.fanOut number (proxies container.proxies) place others with proxies } :=
  rfl

theorem adds_of_served (held : container.proxies[place]? = some proxy) :
    ∃ more after fallen, container.Adds number place proxy reactions []
      (container.served number task (.fanOut place) reactions.application) more after fallen := by
  by_cases succeeds : reactions.application = .success
  · rw [succeeds, served_fanOut held]
    obtain ⟨more, fallen, adds⟩ := adds_of_fanOut id proxy.order held succeeds
      (List.forall_mem_nil _) rfl (.refl proxy)
    exact ⟨more, proxy, fallen, adds⟩
  · obtain ⟨message, cause, same⟩ :=
      container.served_of_failure number task (.fanOut place) succeeds
    rw [same]
    exact ⟨[], proxy, true, adds_of_fault held _ fun _ => .refused succeeds⟩

theorem adds_of_forwarded {branch : Nat} {others : List Nat}
    (held : container.proxies[place]? = some now) (succeeds : reactions.application = .success)
    (passed : ∀ other ∈ done, reactions.branch other = .success)
    (split : proxy.awaiting = done ++ branch :: (now.setAwaits branch false).awaitingAmong others)
    (relieved : proxy.Relieved done now) :
    ∃ more after fallen, container.Adds number place proxy reactions (done ++ [branch])
      (container.forwarded number task (.fanOut place branch others) (reactions.branch branch)) more
      after fallen := by
  by_cases passes : reactions.branch branch = .success
  · rw [passes, forwarded_fanOut]
    have cleared : (container.proxies.modify place (·.setAwaits branch false))[place]? =
        some (now.setAwaits branch false) := by
      rw [List.getElem?_modify_eq, held]
      rfl
    have passedToo : ∀ other ∈ done ++ [branch], reactions.branch other = .success := by
      simpa [or_imp, forall_and] using ⟨passed, passes⟩
    rw [List.append_cons] at split
    obtain ⟨more, fallen, adds⟩ :=
      adds_of_fanOut (·.modify place (·.setAwaits branch false)) others cleared succeeds passedToo
        split (relieved.append branch)
    exact ⟨more, _, fallen, adds⟩
  · obtain ⟨message, cause, same⟩ :=
      container.forwarded_of_failure number task (.fanOut place branch others) passes
    rw [same]
    exact ⟨[], now, true,
      adds_of_fault held _ fun _ => .stopped succeeds passed passes split relieved⟩

theorem adds_of_handBack {conduct : Conduct} {fallen : Bool}
    (fanned : Fanned place proxy reactions task.stage asked now fallen)
    (held : container.proxies[place]? = some now)
    (returned : task.stage.handBack? number conduct = some step)
    (heeds : reactions.conduct? task.stage = some conduct)
    (possible : container.outcome? number task step = some outcome) :
    ∃ more after fallen, container.Adds number place proxy reactions asked outcome more after
      fallen := by
  rcases outcome?_of_handBack returned possible with
    ⟨plan, serving, _, rfl⟩ | ⟨leg, forwarding, _, rfl⟩
  · rw [serving] at fanned heeds
    obtain rfl := Option.some.inj heeds
    cases fanned with
    | ahead ahead => cases ahead
    | refused _ gone | stopped _ _ _ _ _ gone => cases gone
    | serving => exact adds_of_served held
  · rw [forwarding] at fanned heeds
    obtain rfl := Option.some.inj heeds
    cases fanned with
    | ahead ahead => cases ahead
    | refused _ gone | stopped _ _ _ _ _ gone => cases gone
    | forwarding succeeds passed split relieved =>
        exact adds_of_forwarded held succeeds passed split relieved

theorem start_fanOut (number : Nat)
    (proxied : container.proxyOf? task.dialogSession = some (place, proxy))
    (undecided : proxy.final = none) (prack : task.request.method = .prack) :
    ∃ pool, container.start number task = { task.reach .queued with pool } ∨
      container.start number task = { task.serve number (.fanOut place) with pool } := by
  rcases container.start_cases number task with ⟨pool, queued⟩ | ⟨pool, begun⟩
  · exact ⟨pool, Or.inl queued⟩
  · refine ⟨pool, Or.inr ?_⟩
    rw [begun]
    simp only [setOut, proxied, undecided, if_pos prack]

theorem proxies_of_proxyOf? {session : Nat}
    (proxied : container.proxyOf? session = some (place, now)) :
    container.proxies[place]? = some now := by
  unfold proxyOf? at proxied
  obtain ⟨found, -, proxied⟩ := Option.bind_eq_some_iff.mp proxied
  obtain ⟨other, -, proxied⟩ := Option.bind_eq_some_iff.mp proxied
  obtain ⟨held, present, same⟩ := Option.bind_eq_some_iff.mp proxied
  obtain ⟨rfl, rfl⟩ := Prod.mk.inj (Option.some.inj same)
  exact present

theorem proxyOf?_settle {after : Proxy}
    (proxied : container.proxyOf? task.dialogSession = some (place, now))
    (held : (outcome.proxies container.proxies)[place]? = some after) (number : Nat) :
    (container.settle number task outcome).proxyOf? task.dialogSession = some (place, after) := by
  unfold proxyOf? at proxied ⊢
  obtain ⟨session, stored, proxied⟩ := Option.bind_eq_some_iff.mp proxied
  obtain ⟨other, pointed, proxied⟩ := Option.bind_eq_some_iff.mp proxied
  obtain ⟨_, -, same⟩ := Option.bind_eq_some_iff.mp proxied
  obtain ⟨rfl, -⟩ := Prod.mk.inj (Option.some.inj same)
  simp only [settle, SessionStore.get?_modifyDialog_self, stored, Option.map_some,
    Option.bind_eq_bind, Option.bind_some, pointed, held]
  rfl

/-! ### The account of a task -/

/-- What has been done for a task, as far as it is seen in the effects, in the proxy and in the task
itself. -/
structure FanAccount (container : Container) (number : Nat) (task : Task) (place : Nat)
    (proxy : Proxy) (reactions : Reactions) (effects : List Effect) (later : Task)
    (asked : List Nat) (now : Proxy) (fallen : Bool) : Prop where
  found : container.tasks[number]? = some later
  becomes : task.Becomes later
  proxied : container.proxyOf? task.dialogSession = some (place, now)
  fanned : Fanned place proxy reactions later.stage asked now fallen
  legs : (SipContainer.legs number effects).map Leg.stateless? =
    asked.map (fun branch => some (place, branch))
  failed : later.stage ≠ .finished .cancelled → (fallen = true ↔ Failed number effects later.stage)

def FanKept (container : Container) (number : Nat) (task : Task) (place : Nat) (proxy : Proxy)
    (reactions : Reactions) (effects : List Effect) : Prop :=
  ∃ later asked now fallen, container.FanAccount number task place proxy reactions effects later
    asked now fallen

namespace FanAccount

variable {later : Task} {effects : List Effect} {fallen : Bool}
  (account : container.FanAccount number task place proxy reactions effects later asked now fallen)

include account

theorem proxiedHere : container.proxyOf? later.dialogSession = some (place, now) := by
  rw [account.becomes]
  exact account.proxied

theorem held : container.proxies[place]? = some now :=
  proxies_of_proxyOf? account.proxied

theorem unanswered (inside : later.stage.isInside = true) (fault : DispatchError) :
    .responded number fault ∉ effects := by
  intro answered
  have carried : later.stage ≠ .finished .cancelled := by
    intro same
    rw [same] at inside
    cases inside
  have fell := (account.failed carried).mpr ⟨fault, Or.inl answered⟩
  rw [account.fanned.standing inside] at fell
  cases fell

theorem settle {more : List Nat} {after : Proxy} {fell : Bool}
    (held : (outcome.proxies container.proxies)[place]? = some after)
    (fanned : Fanned place proxy reactions outcome.stage (asked ++ more) after fell)
    (legs : (SipContainer.legs number outcome.effects).map Leg.stateless? =
      more.map (fun branch => some (place, branch)))
    (failed : outcome.stage ≠ .finished .cancelled →
      (fell = true ↔ Failed number (effects ++ outcome.effects) outcome.stage)) :
    (container.settle number later outcome).FanAccount number task place proxy reactions
      (effects ++ outcome.effects) (later.after outcome) (asked ++ more) after fell where
  found := settle_tasks_self outcome account.found
  becomes := account.becomes.trans rfl
  proxied := by
    have kept := proxyOf?_settle account.proxiedHere held number
    rwa [show later.dialogSession = task.dialogSession by rw [account.becomes]] at kept
  fanned := fanned
  legs := by
    rw [legs_append, List.map_append, List.map_append, account.legs, legs]
  failed := failed

theorem of_adds (inside : later.stage.isInside = true) {more : List Nat} {after : Proxy}
    {fell : Bool}
    (adds : container.Adds number place proxy reactions asked outcome more after fell) :
    (container.settle number later outcome).FanKept number task place proxy reactions
      (effects ++ outcome.effects) := by
  refine ⟨_, _, _, _, account.settle adds.held adds.fanned adds.legs fun _ => ?_⟩
  rw [adds.failed, Failed, Failed]
  simp only [List.mem_append, account.unanswered inside, false_or]

theorem of_quiet (quiet : outcome.effects = []) (still : outcome.proxies = id)
    (fanned : Fanned place proxy reactions outcome.stage asked now fallen)
    (failed : outcome.stage ≠ .finished .cancelled →
      (fallen = true ↔ Failed number effects outcome.stage)) :
    (container.settle number later outcome).FanKept number task place proxy reactions
      (effects ++ outcome.effects) := by
  refine ⟨later.after outcome, asked ++ [], now, fallen, account.settle ?_ ?_ ?_ ?_⟩
  · rw [still]
    exact account.held
  · rw [List.append_nil]
    exact fanned
  · rw [quiet]
    rfl
  · rw [quiet, List.append_nil]
    exact failed

theorem of_start (undecided : proxy.final = none) (prack : task.request.method = .prack)
    (ahead : later.stage.isAhead = true)
    (begun : container.start number later = outcome) :
    (container.settle number later outcome).FanKept number task place proxy reactions
      (effects ++ outcome.effects) := by
  obtain ⟨rfl, rfl, rfl⟩ := account.fanned.of_isAhead ahead
  have inside := Stage.isInside_of_isAhead ahead
  have method : later.request.method = .prack := by
    rw [account.becomes]
    exact prack
  obtain ⟨pool, queued | taken⟩ := start_fanOut number account.proxiedHere undecided method
  · have adds : container.Adds number place now reactions []
        { later.reach .queued with pool } [] now false :=
      ⟨account.held, .ahead rfl, rfl, by simp [Failed, Task.reach]⟩
    rw [← begun, queued]
    exact account.of_adds inside adds
  · have adds : container.Adds number place now reactions []
        { later.serve number (.fanOut place) with pool } [] now false :=
      ⟨account.held, .serving, rfl, by simp [Failed, Task.serve, Task.reach]⟩
    rw [← begun, taken]
    exact account.of_adds inside adds

theorem of_cancel :
    (container.settle number later (later.cancel number)).FanKept number task place proxy reactions
      (effects ++ (later.cancel number).effects) := by
  have given : later.cancel number =
      { later.conclude number .cancelled with line := .quit } := by
    unfold Task.cancel
    rw [if_neg (not_or.mpr account.fanned.ne_early)]
  obtain ⟨within, done, passed, relieved⟩ := account.fanned.within
  rw [given]
  exact account.of_quiet rfl rfl (.cancelled within passed relieved) (absurd rfl)

theorem of_respond {fault : DispatchError} (answers : later.stage = .responding fault)
    (ending : Ending) (ended : ∀ cause, ending ≠ .failed cause) :
    (container.settle number later (later.conclude number ending)).FanKept number task place proxy
      reactions (effects ++ (later.conclude number ending).effects) := by
  have carried : later.stage ≠ .finished .cancelled := by
    rw [answers]
    exact nofun
  have fell := account.failed carried
  have fanned := account.fanned
  -- A fault that is being answered is seen in the effects, so that it does not matter that the stage
  -- no longer tells of it.
  have same : Failed number effects later.stage ↔
      Failed number effects (later.conclude number ending).stage := by
    rw [answers]
    simp [Failed, Task.conclude, Task.reach, ended]
  rw [answers] at fanned
  refine account.of_quiet rfl rfl ?_ fun _ => fell.trans same
  cases fanned with
  | ahead ahead => cases ahead
  | refused fails => exact .refused fails rfl
  | stopped succeeds passed fails split relieved =>
      exact .stopped succeeds passed fails split relieved rfl

theorem own_step (undecided : proxy.final = none) (prack : task.request.method = .prack)
    (about : step.task? = some number)
    (possible : container.outcome? number later step = some outcome)
    (heeds : ∀ conduct, later.stage.handBack? number conduct = some step →
      reactions.conduct? later.stage = some conduct) :
    (container.settle number later outcome).FanKept number task place proxy reactions
      (effects ++ outcome.effects) := by
  obtain ⟨lined, past⟩ := account.fanned.ne_early
  -- The diagram says which steps there are; what exactly a turn and a hand-back come to, it leaves
  -- open.
  cases transition_of_outcome? about possible with
  | lineUp created => exact absurd created lined
  | enter waits | giveUp waits => exact absurd waits past
  | run answers _ idle =>
      exact account.of_quiet rfl rfl account.fanned account.failed
  | queue pool ahead | serve plan proxies pool ahead | lose pool ahead =>
      exact account.of_start undecided prack ahead (start_of_outcome? possible)
  | forward conduct leg proxies returned | exit conduct fault proxies returned =>
      obtain ⟨more, after, fell, adds⟩ :=
        adds_of_handBack account.fanned account.held returned (heeds _ returned) possible
      exact account.of_adds (Stage.isInside_of_handBack? returned) adds
  | respond fault conduct answers =>
      refine account.of_respond answers _ fun cause same => ?_
      rcases endingOf_cases conduct with completed | ⟨message, panicked⟩
      · cases completed.symm.trans same
      · cases panicked.symm.trans same
  | cancel => exact account.of_cancel

end FanAccount

structure Distant (session : Nat) (before after : Container) : Prop
    extends Interlude before after where
  proxy : after.proxyOf? session = before.proxyOf? session

namespace FanKept

variable {effects shown : List Effect} {before after : Container}

theorem of_others (kept : before.FanKept number task place proxy reactions effects)
    (tasks : ∀ later, before.tasks[number]? = some later → after.tasks[number]? = some later)
    (alone : after.proxyOf? task.dialogSession = before.proxyOf? task.dialogSession)
    (apart : ∀ effect ∈ shown, effect.task? ≠ some number) :
    after.FanKept number task place proxy reactions (effects ++ shown) := by
  obtain ⟨later, asked, now, fallen, account⟩ := kept
  have elsewhere : legs number shown = [] := by
    apply List.filterMap_eq_nil_iff.mpr
    intro effect member
    have other := apart effect member
    cases effect with
    | forwarded subject leg => exact if_neg fun same => other (congrArg some same)
    | asked | relayed | served | responded => rfl
  have unanswered (fault : DispatchError) : .responded number fault ∉ shown :=
    fun member => apart _ member rfl
  refine ⟨later, asked, now, fallen, tasks later account.found, account.becomes,
    alone.trans account.proxied, account.fanned, ?_, ?_⟩
  · rw [legs_append, elsewhere, List.append_nil]
    exact account.legs
  · intro carried
    rw [account.failed carried, Failed, Failed]
    simp only [List.mem_append, unanswered, or_false]

theorem of_step (kept : before.FanKept number task place proxy reactions effects)
    (undecided : proxy.final = none) (prack : task.request.method = .prack)
    (possible : before.step? step = some (after, shown))
    (alone : step.task? ≠ some number →
      after.proxyOf? task.dialogSession = before.proxyOf? task.dialogSession)
    (heeds : ∀ later conduct, before.tasks[number]? = some later →
      later.stage.handBack? number conduct = some step →
        reactions.conduct? later.stage = some conduct) :
    after.FanKept number task place proxy reactions (effects ++ shown) := by
  by_cases own : step.task? = some number
  · obtain ⟨later, asked, now, fallen, account⟩ := kept
    rw [before.step?_of_task? own] at possible
    obtain ⟨same, outcome, found, able, rfl, rfl⟩ := taskStep?_eq_some possible
    obtain rfl := Option.some.inj (account.found.symm.trans found)
    exact account.own_step undecided prack own able fun conduct => heeds _ conduct found
  · have happening := happening_of_step? possible
    refine kept.of_others (fun later => happening.task_unchanged own) (alone own) ?_
    intro effect member about
    rcases happening.effect_about member with free | same
    · cases free.symm.trans about
    · exact own (same.symm.trans about)

end FanKept

end Container

/-! ### Runs -/

/-- A run in which nobody but a task touches the proxy of a session, and in which the application and
the branches react to it as given. -/
structure Tour (number session : Nat) (reactions : Reactions) (start : Container)
    (history : List Moment) (finish : Container) : Prop where
  run : Run (Container.Distant session) start history finish
  alone : ∀ moment ∈ history, moment.step.task? ≠ some number →
    moment.after.proxyOf? session = moment.before.proxyOf? session
  heeds : ∀ moment ∈ history, ∀ later conduct, moment.before.tasks[number]? = some later →
    later.stage.handBack? number conduct = some moment.step →
      reactions.conduct? later.stage = some conduct

section

variable {start middle finish : Container} {history rest : List Moment} {number place : Nat}
  {task later : Task} {proxy : Proxy} {reactions : Reactions}

theorem Tour.append {session : Nat} (early : Tour number session reactions start history middle)
    (late : Tour number session reactions middle rest finish) :
    Tour number session reactions start (history ++ rest) finish where
  run := early.run.append late.run
  alone := by
    intro moment taken
    rcases List.mem_append.mp taken with before | after
    · exact early.alone moment before
    · exact late.alone moment after
  heeds := by
    intro moment taken
    rcases List.mem_append.mp taken with before | after
    · exact early.heeds moment before
    · exact late.heeds moment after

theorem Tour.kept {effects : List Effect}
    (tour : Tour number task.dialogSession reactions start history finish)
    (undecided : proxy.final = none) (prack : task.request.method = .prack)
    (kept : start.FanKept number task place proxy reactions effects) :
    finish.FanKept number task place proxy reactions
      (effects ++ history.flatMap Moment.effects) := by
  obtain ⟨run, alone, heeds⟩ := tour
  induction run generalizing effects with
  | rest =>
      rw [List.flatMap_nil, List.append_nil]
      exact kept
  | step possible _ ih =>
      rw [List.flatMap_cons, ← List.append_assoc]
      exact ih (kept.of_step undecided prack possible (alone _ List.mem_cons_self)
          (heeds _ List.mem_cons_self))
        (fun moment taken => alone moment (List.mem_cons_of_mem _ taken))
        (fun moment taken => heeds moment (List.mem_cons_of_mem _ taken))
  | pause others _ ih =>
      have onward := kept.of_others (fun later => others.task_kept) others.proxy
        (List.forall_mem_nil _)
      rw [List.append_nil] at onward
      exact ih onward alone heeds

theorem Container.Attended.tour {responder : Conduct} (session : Nat)
    (attended : middle.Attended (reactions.team responder) number rest finish) :
    Tour number session reactions middle rest finish where
  run := attended.run.weaken False.elim
  alone := by
    intro moment taken others
    obtain ⟨task, _, turn⟩ := attended.turns moment taken
    exact absurd (Team.task?_of_turn? _ turn) others
  heeds := by
    intro moment taken later conduct found returned
    obtain ⟨task, present, turn⟩ := attended.turns moment taken
    obtain rfl := Option.some.inj (found.symm.trans present)
    unfold Stage.handBack? at returned
    split at returned
    · rename_i plan serving
      rw [serving] at turn ⊢
      obtain same := (Option.some.inj turn).trans (Option.some.inj returned).symm
      exact congrArg some (Step.serve.inj same).2
    · rename_i leg forwarding
      rw [forwarding] at turn ⊢
      obtain same := (Option.some.inj turn).trans (Option.some.inj returned).symm
      exact congrArg some (Step.forward.inj same).2
    · cases returned

/-- A PRACK that its application has taken has gone to the branches of a proxy. -/
structure FannedOut (number place : Nat) (task : Task) (proxy : Proxy) (reactions : Reactions)
    (history : List Moment) (finish : Container) (last : Task) (now : Proxy) : Prop where
  legs : (legs number (history.flatMap Moment.effects)).map Leg.stateless? =
    (reactions.asked proxy.awaiting).map (fun branch => some (place, branch))
  proxied : finish.proxyOf? task.dialogSession = some (place, now)
  relieved : proxy.Relieved (reactions.passing proxy.awaiting) now
  spared : ∀ branch, proxy.awaits branch = false →
    branch ∉ reactions.asked proxy.awaiting ∧ now.branch? branch = proxy.branch? branch
  failed : Failed number (history.flatMap Moment.effects) last.stage ↔
    reactions.application ≠ .success ∨
      ∃ branch ∈ reactions.asked proxy.awaiting, reactions.branch branch ≠ .success

/-- What a task does that has a PRACK for the branches of a proxy. -/
structure FanOut (start : Container) (number place : Nat) (task : Task) (proxy : Proxy) : Prop where
  onTheWay : ∀ {reactions history finish},
    Tour number task.dialogSession reactions start history finish →
    ∃ asked done now,
      (SipContainer.legs number (history.flatMap Moment.effects)).map Leg.stateless? =
        asked.map (fun branch => some (place, branch)) ∧
      asked <+: reactions.asked proxy.awaiting ∧
      finish.proxyOf? task.dialogSession = some (place, now) ∧
      done <+: reactions.passing proxy.awaiting ∧ proxy.Relieved done now
  settled : ∀ {reactions history finish last},
    Tour number task.dialogSession reactions start history finish →
    finish.tasks[number]? = some last → last.stage.isInside = false →
    last.stage ≠ .finished .cancelled →
    ∃ now, FannedOut number place task proxy reactions history finish last now
  attended : ∀ {reactions history middle later},
    Tour number task.dialogSession reactions start history middle → middle.Ready number later →
    ∀ responder, ∃ rest finish last now,
      middle.Attended (reactions.team responder) number rest finish ∧
      finish.tasks[number]? = some last ∧
      FannedOut number place task proxy reactions (history ++ rest) finish last now

theorem Tour.fannedOut {last : Task}
    (tour : Tour number task.dialogSession reactions start history finish)
    (undecided : proxy.final = none) (prack : task.request.method = .prack)
    (kept : start.FanKept number task place proxy reactions [])
    (found : finish.tasks[number]? = some last) (out : last.stage.isInside = false)
    (carried : last.stage ≠ .finished .cancelled) :
    ∃ now, FannedOut number place task proxy reactions history finish last now := by
  obtain ⟨same, asked, now, fallen, account⟩ := tour.kept undecided prack kept
  obtain rfl := Option.some.inj (found.symm.trans account.found)
  obtain ⟨rfl, relieved, fell⟩ := account.fanned.settled out carried
  have idle {branch : Nat} (passive : proxy.awaits branch = false) : branch ∉ proxy.awaiting := by
    intro member
    rw [Proxy.awaits_of_mem_awaiting member] at passive
    cases passive
  refine ⟨now, account.legs, account.proxied, relieved, ?_, ?_⟩
  · intro branch passive
    refine ⟨fun member => idle passive (Reactions.mem_of_mem_asked member), ?_⟩
    rw [relieved.waiting, if_neg fun member => idle passive (Reactions.mem_of_mem_passing member)]
  · exact (account.failed carried).symm.trans fell

/-- A PRACK for a forked dialog goes to the branches that wait for one, in every container and however
the application and the branches react. -/
theorem Container.fansOut (found : start.tasks[number]? = some task)
    (ahead : task.stage.isAhead = true) (prack : task.request.method = .prack)
    (proxied : start.proxyOf? task.dialogSession = some (place, proxy))
    (undecided : proxy.final = none) : FanOut start number place task proxy := by
  have kept (reactions : Reactions) : start.FanKept number task place proxy reactions [] := by
    refine ⟨task, [], proxy, false, found, .refl task, proxied, .ahead ahead, rfl, fun _ => ?_⟩
    refine iff_of_false nofun ?_
    rintro ⟨fault, answered | failed⟩
    · cases answered
    · rw [failed] at ahead
      cases ahead
  refine ⟨fun tour => ?_, fun tour => tour.fannedOut undecided prack (kept _), ?_⟩
  · obtain ⟨later, asked, now, fallen, account⟩ := tour.kept undecided prack (kept _)
    obtain ⟨within, done, passed, relieved⟩ := account.fanned.within
    exact ⟨asked, done, now, account.legs, within, account.proxied, passed, relieved⟩
  · intro reactions history middle later tour ready responder
    obtain ⟨rest, finish, attended⟩ := ready.ends (reactions.team responder)
    obtain ⟨last, ending, present, finished, carried⟩ := attended.ended
    have out : last.stage.isInside = false := by
      rw [finished]
      rfl
    have whole : last.stage ≠ .finished .cancelled := by
      rw [finished]
      exact fun same => carried (Stage.finished.inj same)
    obtain ⟨now, fanned⟩ := (tour.append (attended.tour task.dialogSession)).fannedOut undecided
      prack (kept reactions) present out whole
    exact ⟨rest, finish, last, now, attended, present, fanned⟩

end

namespace Sample

/-- A proxy with four branches. The first has been added twice, and the second does not wait. -/
def fork : Proxy where
  branches :=
    [{ target := uri, awaitsPrack := true }, { target := uri },
      { target := uri, awaitsPrack := true }, { target := uri, awaitsPrack := true }]
  order := [0, 1, 0, 2, 3]

def acknowledgement : Task :=
  { handmade with
    request := request .prack 1
    gate := none
    course := .running true
    stage := .entered }

def forked : Container :=
  let base := container .none
  { base with
    store :=
      { base.store with
        dialogs := base.store.dialogs.modify 0 (fun session => { session with proxy := some 0 }) }
    proxies := [fork]
    tasks := [acknowledgement] }

def brokenBranch : Reactions where
  application := .success
  branch number := if number = 2 then .panic none else .success

end Sample

/-- The request goes to the first branch once and then to the third one, where it ends. -/
theorem Container.fansOut_forked :
    Sample.forked.tasks[0]? = some Sample.acknowledgement ∧
      Sample.acknowledgement.stage.isAhead = true ∧
      Sample.acknowledgement.request.method = .prack ∧
      Sample.forked.proxyOf? 0 = some (0, Sample.fork) ∧ Sample.fork.final = none ∧
      FanOut Sample.forked 0 0 Sample.acknowledgement Sample.fork ∧
      ∃ rest finish now, ∃ last : Task,
        Sample.forked.Attended (Sample.brokenBranch.team .success) 0 rest finish ∧
        (legs 0 (rest.flatMap Moment.effects)).map Leg.stateless? = [some (0, 0), some (0, 2)] ∧
        finish.proxyOf? 0 = some (0, now) ∧
        (List.range 4).map now.awaits = [false, false, true, true] ∧
        Failed 0 (rest.flatMap Moment.effects) last.stage := by
  have fansOut : FanOut Sample.forked 0 0 Sample.acknowledgement Sample.fork :=
    Container.fansOut rfl rfl rfl rfl rfl
  have ready : Sample.forked.Ready 0 Sample.acknowledgement :=
    ⟨rfl, nofun, Or.inl ⟨rfl, rfl⟩⟩
  have still : Tour 0 0 Sample.brokenBranch Sample.forked [] Sample.forked :=
    ⟨.rest _, List.forall_mem_nil _, List.forall_mem_nil _⟩
  obtain ⟨rest, finish, last, now, attended, -, fanned⟩ := fansOut.attended still ready .success
  have asked : Sample.brokenBranch.asked Sample.fork.awaiting = [0, 2] := by decide +kernel
  have passing : Sample.brokenBranch.passing Sample.fork.awaiting = [0] := by decide +kernel
  have legs := fanned.legs
  have failed := fanned.failed
  have relieved := fanned.relieved
  rw [asked] at legs failed
  rw [passing] at relieved
  refine ⟨rfl, rfl, rfl, rfl, rfl, fansOut, rest, finish, now, last, attended, legs,
    fanned.proxied, ?_, ?_⟩
  · simp only [funext relieved.awaits_eq]
    decide
  · exact failed.mpr (Or.inr ⟨2, by decide, by decide⟩)

end SipContainer
