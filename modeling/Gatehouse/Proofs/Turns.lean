import Gatehouse.Proofs.Authorization
import Mathlib.Data.List.Induction

/-!
# The turns of a request

A request is served in turns, and between two of its turns time may pass and other
requests may take theirs. So a turn brings its own moment, and finds the application
standing as it then does. `Moves` lists what one turn can do to a request; everything
that is to hold of a request in whatever company is read off that list.

The first thing that is read off is that a request comes to its end: every turn brings it
nearer to it, and `Exchange.enough` turns are enough for the longest handler.
-/

namespace Gatehouse

/-- One turn of a request: when it comes, and how the application stands then. -/
structure Turn where
  moment : Moment
  standing : Standing

/-- Whether a response is on its way to the client, has got there, or will never come. -/
def Stage.isLeaving : Stage → Bool
  | .answered _ | .done _ _ | .lost => true
  | _ => false

/-- Whether nothing is left to be done for a request. -/
def Stage.isOver : Stage → Bool
  | .done _ _ | .lost => true
  | _ => false

namespace Stage

/-- The number of turns that a request needs from here on, where `longest` is the number
of acts of the longest handler. -/
def remaining (longest : Nat) : Stage → Nat
  | .arrived => longest + 6
  | .routed m _ => m.entry.handler.acts.length + 5
  | .showing m _ _ => m.entry.handler.acts.length + 4
  | .passed m _ _ => m.entry.handler.acts.length + 3
  | .handling _ acts _ => acts.length + 2
  | .answered _ => 1
  | .done _ _ | .lost => 0

variable {s : Stage} {longest : Nat}

theorem isLeaving_of_isOver (h : s.isOver = true) : s.isLeaving = true := by
  cases s <;> first | rfl | cases h

theorem two_le_remaining (h : s.isLeaving = false) : 2 ≤ s.remaining longest := by
  cases s <;> first | (simp only [remaining]; omega) | cases h

theorem remaining_le_one (h : s.isLeaving = true) : s.remaining longest ≤ 1 := by
  cases s <;> first | (simp only [remaining]; omega) | cases h

theorem remaining_eq_zero_iff : s.remaining longest = 0 ↔ s.isOver = true := by
  cases s <;> simp [remaining, isOver]

end Stage

theorem Http.Router.mem_of_destination {κ : Type} {places : List (Mounted κ)} {r : Request}
    {m : Mounted κ} {params : List (String × Datum)}
    (h : destination places r = .place m params) : m ∈ places := by
  obtain ⟨-, -, hfind, -⟩ := destination_eq_place h
  exact List.mem_of_find?_eq_some hfind

theorem Storage.eq_of_mem_ping {a : Attempt} {s : Storage} {l : LogEntry}
    (h : l ∈ (s.ping a).2) : l = log .warning "Storage ping failed" := by
  rw [ping] at h
  split at h
  · cases h
  · split at h
    · cases h
    · exact List.mem_singleton.mp h

/-- Only of a database that does not answer does an act say something. -/
theorem Act.eq_of_mem_logs_run {a : Act} {visit : Visit} {around : Surroundings} {last : Reply}
    {session : Session} {l : LogEntry} (h : l ∈ (a.run visit around last session).logs) :
    l = Storage.log .warning "Storage ping failed" := by
  cases a with
  | reportHealth => exact Storage.eq_of_mem_ping h
  | setInSession key value => rw [run] at h; split at h <;> cases h
  | popFromSession key => rw [run] at h; split at h <;> cases h
  | reportProfile =>
      rw [run] at h
      split at h
      · split at h <;> cases h
      · cases h
  | _ => cases h

namespace Exchange

variable {app : Application} {moment : Moment} {st : Standing} {x y : Exchange}

/-- A request after some turns. -/
def along (app : Application) (turns : List Turn) (x : Exchange) : Exchange :=
  turns.foldl (fun x t => (x.step app t.moment t.standing).2) x

theorem along_concat (turns : List Turn) (t : Turn) (x : Exchange) :
    along app (turns ++ [t]) x = ((along app turns x).step app t.moment t.standing).2 := by
  rw [along, along, List.foldl_append]
  rfl

/-! ## Leaving

Whatever makes a response leaves the handler behind, and keeps the request itself. -/

theorem respondStatus_isLeaving (app : Application) (x : Exchange) (code : Int) (detail : Datum)
    (headers : List (String × String)) :
    (x.respondStatus app code detail headers).stage.isLeaving = true := by
  rw [respondStatus]
  split <;> rfl

theorem respondFault_isLeaving (app : Application) (x : Exchange) (f : Fault) :
    (x.respondFault app f).stage.isLeaving = true := by
  rw [respondFault]
  split <;> rfl

theorem failAtGate_isLeaving (app : Application) (x : Exchange) (f : Failure) :
    (x.failAtGate app f).stage.isLeaving = true := by
  cases f with
  | api e => rfl
  | status code detail headers => exact respondStatus_isLeaving app x code detail headers
  | limited limit seconds => rfl
  | fault f => exact respondFault_isLeaving app x f

theorem failInHandler_isLeaving (app : Application) (x : Exchange) (f : Failure) :
    (x.failInHandler app f).stage.isLeaving = true := by
  cases f with
  | api e => rfl
  | status code detail headers => exact respondStatus_isLeaving app x code detail headers
  | limited limit seconds => rfl
  | fault f => rfl

theorem conclude_isLeaving (app : Application) (x : Exchange) (reply : Reply) :
    (x.conclude app reply).stage.isLeaving = true := by
  rw [conclude.eq_def]
  split
  · rfl
  · rfl
  · rfl
  · split <;> rfl

theorem send_isOver (app : Application) (now : Int) (x : Exchange) (r : Http.Response) :
    (x.send app now r).stage.isOver = true := by
  rw [send]
  split <;> rfl

/-! ## What a turn does -/

/-- What one turn makes of a request. The first six constructors are the way to the end of
the handler; `leaves` stands for every way out of it. -/
inductive Moves (app : Application) (t : Turn) (x : Exchange) : Exchange → Prop
  /-- Its session is read, and it finds its route. -/
  | finds {a : Http.SessionCookie.Arrival} {m : Http.Mounted Handler}
      {params : List (String × Datum)} (hstage : x.stage = .arrived)
      (hload : app.load (Application.second t.moment.now) x.request = some a)
      (hplace : Http.Router.destination app.places x.request = .place m params) :
      Moves app t x
        { x with session := a.session, carried := a.carried, stage := .routed m params }
  /-- The route is open. -/
  | opens {m : Http.Mounted Handler} {params : List (String × Datum)}
      (hstage : x.stage = .routed m params) (hpublic : m.entry.policy.isPublic = true) :
      Moves app t x { x with stage := .passed m params none }
  /-- It shows a token. -/
  | shows {m : Http.Mounted Handler} {params : List (String × Datum)} {token : Datum}
      (hstage : x.stage = .routed m params) (hclosed : m.entry.policy.isPublic = false)
      (htoken : Gate.token? (some x.session) x.request.headers = some token) :
      Moves app t x { x with session := x.session.touch, stage := .showing m params token }
  /-- The token is accepted. -/
  | accepts {m : Http.Mounted Handler} {params : List (String × Datum)} {token : Datum}
      {i : Identity} (hstage : x.stage = .showing m params token)
      (hverdict : app.verifier t.moment.now token = .ok (.accepted i)) :
      Moves app t x
        { x with verified := x.verified ++ [token], stage := .passed m params (some i) }
  /-- Its handler is called. -/
  | calls {m : Http.Mounted Handler} {params : List (String × Datum)} {i : Option Identity}
      (hstage : x.stage = .passed m params i) : Moves app t x (x.call m params i)
  /-- Its handler does an act. -/
  | acts {visit : Visit} {a : Act} {rest : List Act} {last reply : Reply}
      {outcome : ActOutcome} (hstage : x.stage = .handling visit (a :: rest) last)
      (hrun : a.run visit (x.around app t.moment t.standing) last x.session = outcome)
      (hreply : outcome.reply = .ok reply) :
      Moves app t x
        { x with
          session := outcome.session
          logs := x.logs ++ outcome.logs
          stage := .handling visit rest reply }
  /-- There is a response, or there will be none; or the response is sent. -/
  | leaves {y : Exchange} (hrequest : y.request = x.request)
      (hleaving : y.stage.isLeaving = true)
      (hover : x.stage.isLeaving = true → y.stage.isOver = true) : Moves app t x y

variable {t : Turn}

theorem Moves.request_eq (h : Moves app t x y) : y.request = x.request := by
  cases h with
  | leaves hrequest _ _ => exact hrequest
  | _ => rfl

/-- Out of a stage in which there is no response yet, a step that settles leaves. -/
theorem Moves.of_settles (hsettles : x.Settles y) (hleaving : y.stage.isLeaving = true)
    (hbefore : x.stage.isLeaving = false) : Moves app t x y :=
  .leaves hsettles.request hleaving fun h => by rw [hbefore] at h; cases h

theorem enter_moves {a : Http.SessionCookie.Arrival} (hstage : x.stage = .arrived)
    (hload : app.load (Application.second t.moment.now) x.request = some a) :
    Moves app t x ({ x with session := a.session, carried := a.carried }.enter app) := by
  have hleave : ∀ {y : Exchange}, y.request = x.request → y.stage.isLeaving = true →
      Moves app t x y := fun hrequest hleaving =>
    .leaves hrequest hleaving fun h => by rw [hstage] at h; cases h
  rw [enter]
  split
  · exact hleave rfl rfl
  · rw [route]
    split
    · exact hleave rfl rfl
    · next m params hplace => exact .finds hstage hload hplace
    · exact hleave rfl rfl
    · exact hleave rfl rfl
    · exact hleave rfl rfl

theorem arrive_moves (hstage : x.stage = .arrived) :
    Moves app t x (x.arrive app t.moment t.standing).2 := by
  have hleave : ∀ {y : Exchange}, y.request = x.request → y.stage.isLeaving = true →
      Moves app t x y := fun hrequest hleaving =>
    .leaves hrequest hleaving fun h => by rw [hstage] at h; cases h
  rw [arrive]
  split
  · exact hleave rfl rfl
  · next a hload =>
      rw [meter]
      split
      · exact hleave rfl rfl
      · split
        · split
          · exact hleave rfl rfl
          · split
            · exact enter_moves hstage hload
            · exact hleave rfl rfl
            · exact hleave rfl rfl
        · exact enter_moves hstage hload

theorem approach_moves {m : Http.Mounted Handler} {params : List (String × Datum)}
    (hstage : x.stage = .routed m params) : Moves app t x (x.approach app m params) := by
  rw [approach]
  cases hpublic : m.entry.policy.isPublic with
  | true =>
      have hopens : Moves app t x { x with stage := .passed m params none } :=
        .opens hstage hpublic
      simpa only [Gate.approach, hpublic, ↓reduceIte, heed, tell, Option.getD_some,
        List.append_nil] using hopens
  | false =>
      simp only [Gate.approach, hpublic, Bool.false_eq_true, ↓reduceIte, Option.map_some]
      cases htoken : Gate.token? (some x.session) x.request.headers with
      | none => exact .leaves rfl rfl fun h => by rw [hstage] at h; cases h
      | some token => exact .shows hstage hpublic htoken

theorem judge_moves {m : Http.Mounted Handler} {params : List (String × Datum)}
    {token : Datum} (hstage : x.stage = .showing m params token) :
    Moves app t x (x.judge app t.moment.now m params token) := by
  have hleave : ∀ {y : Exchange}, y.request = x.request → y.stage.isLeaving = true →
      Moves app t x y := fun hrequest hleaving =>
    .leaves hrequest hleaving fun h => by rw [hstage] at h; cases h
  rw [judge]
  cases hverdict : app.verifier t.moment.now token with
  | error f =>
      exact hleave (failAtGate_settles app _ f).request (failAtGate_isLeaving app _ f)
  | ok verdict =>
      cases verdict with
      | expired => exact hleave rfl rfl
      | invalid => exact hleave rfl rfl
      | accepted i =>
          cases hunfit : Gate.unfitRole? m.entry.policy.roles i.role with
          | some typeName =>
              simp only [Gate.settle, hunfit, heed]
              exact hleave rfl rfl
          | none =>
              have haccepts : Moves app t x { x with
                  verified := x.verified ++ [token]
                  stage := .passed m params (some i) } := .accepts hstage hverdict
              simp only [Gate.settle, hunfit]
              rw [Gate.grant.eq_def]
              split
              · simpa only [heed, tell, Option.getD_some, List.append_nil] using haccepts
              · split
                · simpa only [heed, tell, Option.getD_some, List.append_nil] using haccepts
                · exact hleave rfl rfl

theorem act_moves {visit : Visit} {a : Act} {rest : List Act} {last : Reply}
    (hstage : x.stage = .handling visit (a :: rest) last) :
    Moves app t x (x.act app t.moment t.standing visit last a rest) := by
  have hsettles : x.Settles (x.act app t.moment t.standing visit last a rest) :=
    x.act_settles visit last a rest
  simp only [act] at hsettles ⊢
  split
  · next reply hreply => exact .acts hstage rfl hreply
  · next f hf =>
      simp only [hf] at hsettles
      refine .of_settles hsettles (failInHandler_isLeaving app _ f) ?_
      rw [hstage]
      rfl

theorem stepAddressed_moves : Moves app t x (x.stepAddressed app t.moment t.standing).2 := by
  cases hstage : x.stage with
  | arrived =>
      simp only [stepAddressed, hstage]
      exact arrive_moves hstage
  | routed m params =>
      simp only [stepAddressed, hstage]
      exact approach_moves hstage
  | showing m params token =>
      simp only [stepAddressed, hstage]
      exact judge_moves hstage
  | passed m params i =>
      simp only [stepAddressed, hstage]
      exact .calls hstage
  | handling visit acts last =>
      cases acts with
      | nil =>
          simp only [stepAddressed, hstage]
          refine .of_settles (conclude_settles app x last) (conclude_isLeaving app x last) ?_
          rw [hstage]
          rfl
      | cons a rest =>
          simp only [stepAddressed, hstage]
          exact act_moves hstage
  | answered r =>
      simp only [stepAddressed, hstage]
      have hover := send_isOver app t.moment.now x r
      exact .leaves (x.send_settles t.moment.now r).request (Stage.isLeaving_of_isOver hover)
        fun _ => hover
  | done r broken =>
      simp only [stepAddressed, hstage]
      exact .leaves rfl (by rw [hstage]; rfl) fun _ => by rw [hstage]; rfl
  | lost =>
      simp only [stepAddressed, hstage]
      exact .leaves rfl (by rw [hstage]; rfl) fun _ => by rw [hstage]; rfl

/-- Every turn is one of the moves. -/
theorem step_moves : Moves app t x (x.step app t.moment t.standing).2 := by
  have hmoves : Moves app t x (x.stepAddressed app t.moment t.standing).2 := stepAddressed_moves
  simp only [step]
  split
  · exact .leaves hmoves.request_eq rfl fun _ => rfl
  · exact hmoves

/-- A request arrives once. -/
theorem Moves.ne_arrived (h : Moves app t x y) : y.stage ≠ .arrived := by
  cases h with
  | leaves _ hleaving _ =>
      intro harrived
      rw [harrived] at hleaving
      cases hleaving
  | _ => exact nofun

/-- Being lost to its log changes a request only. -/
theorem step_fst (x : Exchange) (moment : Moment) (st : Standing) :
    (x.step app moment st).1 = (x.stepAddressed app moment st).1 := by
  simp only [step]
  split
  · rfl
  · rfl

/-- Only the arrival of a request changes how the application stands. -/
theorem step_standing_of_ne_arrived (h : x.stage ≠ .arrived) (moment : Moment) (st : Standing) :
    (x.step app moment st).1 = st := by
  rw [step_fst, stepAddressed]
  split
  · next harrived => exact absurd harrived h
  all_goals rfl

theorem along_ne_arrived {turns : List Turn} (h : turns ≠ []) (x : Exchange) :
    (along app turns x).stage ≠ .arrived := by
  rcases List.eq_nil_or_concat' turns with rfl | ⟨before, t, rfl⟩
  · exact absurd rfl h
  · rw [along_concat]
    exact step_moves.ne_arrived

theorem along_settles (app : Application) (turns : List Turn)
    (h : x.stage.isBehindGate = true) :
    x.Settles (along app turns x) := by
  induction turns using List.reverseRecOn with
  | nil => exact ⟨rfl, rfl, rfl, h⟩
  | append_singleton turns t ih =>
      rw [along_concat]
      exact ih.trans (step_settles ih.behind)

theorem along_request (turns : List Turn) (x : Exchange) :
    (along app turns x).request = x.request := by
  induction turns using List.reverseRecOn with
  | nil => rfl
  | append_singleton turns t ih =>
      rw [along_concat]
      exact step_moves.request_eq.trans ih

/-! ## To the end -/

theorem le_longestHandler {places : List (Http.Mounted Handler)} {m : Http.Mounted Handler}
    (hm : m ∈ places) : m.entry.handler.acts.length ≤ longestHandler places := by
  have hfold : ∀ (ms : List (Http.Mounted Handler)) (n : Nat),
      n ≤ ms.foldl (fun n m => max n m.entry.handler.acts.length) n ∧
        ∀ m ∈ ms, m.entry.handler.acts.length ≤
          ms.foldl (fun n m => max n m.entry.handler.acts.length) n := by
    intro ms
    induction ms with
    | nil => exact fun n => ⟨Nat.le_refl n, fun m hm => by cases hm⟩
    | cons m' rest ih =>
        intro n
        rw [List.foldl_cons]
        obtain ⟨hstart, hrest⟩ := ih (max n m'.entry.handler.acts.length)
        refine ⟨by omega, fun m hm => ?_⟩
        rcases List.mem_cons.mp hm with rfl | hm
        · omega
        · exact hrest m hm
  exact (hfold places 0).2 m hm

theorem Moves.remaining_le (h : Moves app t x y) :
    y.stage.remaining (longestHandler app.places) ≤
      x.stage.remaining (longestHandler app.places) - 1 := by
  cases h with
  | finds hstage hload hplace =>
      have hle := le_longestHandler (Http.Router.mem_of_destination hplace)
      simp only [hstage, Stage.remaining]
      omega
  | opens hstage _ => simp only [hstage, Stage.remaining]; omega
  | shows hstage _ _ => simp only [hstage, Stage.remaining]; omega
  | accepts hstage _ => simp only [hstage, Stage.remaining]; omega
  | calls hstage => simp only [hstage, Stage.remaining, call]; omega
  | acts hstage _ _ => simp only [hstage, Stage.remaining, List.length_cons]; omega
  | leaves hrequest hleaving hover =>
      -- a response that is on its way needs one turn more, and none once it is sent
      cases hx : x.stage.isLeaving with
      | false =>
          have hbefore : 2 ≤ x.stage.remaining (longestHandler app.places) :=
            Stage.two_le_remaining hx
          have hafter : y.stage.remaining (longestHandler app.places) ≤ 1 :=
            Stage.remaining_le_one hleaving
          omega
      | true =>
          rw [Stage.remaining_eq_zero_iff.mpr (hover hx)]
          exact Nat.zero_le _

theorem along_remaining_le (turns : List Turn) (x : Exchange) :
    (along app turns x).stage.remaining (longestHandler app.places) ≤
      x.stage.remaining (longestHandler app.places) - turns.length := by
  induction turns using List.reverseRecOn with
  | nil => exact Nat.le_refl _
  | append_singleton turns t ih =>
      have hmoves : Moves app t (along app turns x) _ := step_moves
      have hstep := hmoves.remaining_le
      rw [along_concat, List.length_append, List.length_singleton]
      omega

/-- So many turns bring every request to its end. -/
theorem along_isOver {turns : List Turn} (hlen : enough app ≤ turns.length) (r : Http.Request) :
    (along app turns (ofRequest r)).stage.isOver = true := by
  have hle : (along app turns (ofRequest r)).stage.remaining (longestHandler app.places) ≤
      (ofRequest r).stage.remaining (longestHandler app.places) - turns.length :=
    along_remaining_le turns (ofRequest r)
  have hstart : (ofRequest r).stage.remaining (longestHandler app.places) = enough app := rfl
  have hnone : (along app turns (ofRequest r)).stage.remaining (longestHandler app.places) = 0 := by
    omega
  exact Stage.remaining_eq_zero_iff.mp hnone

theorem wasNamed_of_done {r : Http.Response} {broken : Bool} (h : y.stage = .done r broken) :
    wasNamed x y = true := by
  simp only [wasNamed, h]
  split
  · rfl
  · rfl
  · rfl
  · next hother => exact (hother r broken rfl).elim

/-- A response is sent only to a request that has an address. -/
theorem hasAddress_of_step_done {r : Http.Response} {broken : Bool}
    (h : (x.step app moment st).2.stage = .done r broken) : x.request.hasAddress = true := by
  cases haddress : x.request.hasAddress with
  | true => rfl
  | false =>
      simp only [step, haddress, Bool.not_false, Bool.true_and] at h
      split at h
      · cases h
      · next hunnamed => exact absurd (wasNamed_of_done h) hunnamed

theorem step_of_isOver (hover : x.stage.isOver = true)
    (haddress : ∀ r broken, x.stage = .done r broken → x.request.hasAddress = true) :
    x.step app moment st = (st, x) := by
  cases hstage : x.stage with
  | done r broken => simp [step, stepAddressed, hstage, haddress r broken hstage]
  | lost => simp [step, stepAddressed, hstage, wasNamed]
  | _ => rw [hstage] at hover; cases hover

/-- What a request has come to in the end does not change any more. -/
theorem along_of_isOver (more : List Turn) (hover : x.stage.isOver = true)
    (haddress : ∀ r broken, x.stage = .done r broken → x.request.hasAddress = true) :
    along app more x = x := by
  induction more with
  | nil => rfl
  | cons t more ih =>
      rw [along, List.foldl_cons, step_of_isOver hover haddress]
      exact ih

theorem along_done_hasAddress {turns : List Turn} {r : Http.Request} {response : Http.Response}
    {broken : Bool} (h : (along app turns (ofRequest r)).stage = .done response broken) :
    r.hasAddress = true := by
  induction turns using List.reverseRecOn with
  | nil => cases h
  | append_singleton turns t _ =>
      rw [along_concat] at h
      have haddress := hasAddress_of_step_done h
      rw [along_request] at haddress
      exact haddress

end Exchange

end Gatehouse
