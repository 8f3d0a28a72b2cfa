import Gatehouse.Proofs.ErrorFormat
import Gatehouse.Proofs.Rounds

/-!
# Values of handlers reach the client

What a handler gives back is taken apart and put together again, written as JSON text and
sent. A client that reads the text has the value, but for the members whose name starts with
`_sa`: these are left out wherever they stand, and nothing tells of it. `Json.visible` is what
is left, and `Json.hides` says whether that is less than the whole.

The way has two halves. `plain_ofJson` says that putting a value together changes nothing
else; it is an induction over the value, with the members of an object put one behind the
other, which stay apart because their names do. That the text gives the value back is known
for values that are not too deep, and no value is deeper than its text is long.

Three things get in the way that do not lie with the shape of the value: a whole number with
more digits than are written, a session that cannot be sent, and a request that has no
address. In the first two cases something breaks, and in the last there is no response.
-/

namespace Gatehouse

open Http

namespace Json

mutual

/-- A value without the members that no body has, however deep they stand. -/
def visible : Json → Json
  | .arr items => .arr (visibleItems items)
  | .obj members => .obj (visibleMembers members)
  | v => v

def visibleItems : List Json → List Json
  | [] => []
  | v :: rest => visible v :: visibleItems rest

def visibleMembers : List (String × Json) → List (String × Json)
  | [] => []
  | (name, v) :: rest =>
    if Text.startsWith "_sa" name then visibleMembers rest
    else (name, visible v) :: visibleMembers rest

end

mutual

/-- Whether there is a member in a value that no body has. -/
def hides : Json → Bool
  | .arr items => hidesItems items
  | .obj members => hidesMembers members
  | _ => false

def hidesItems : List Json → Bool
  | [] => false
  | v :: rest => hides v || hidesItems rest

def hidesMembers : List (String × Json) → Bool
  | [] => false
  | (name, v) :: rest => Text.startsWith "_sa" name || hides v || hidesMembers rest

end

mutual

theorem visible_eq_self : ∀ {v : Json}, v.hides = false → v.visible = v
  | .null, _ | .bool _, _ | .int _, _ | .float _, _ | .str _, _ | .unpaired _, _ => by
      simp only [visible]
  | .arr items, h => by rw [visible, visibleItems_eq_self h]
  | .obj members, h => by rw [visible, visibleMembers_eq_self h]

theorem visibleItems_eq_self : ∀ {items : List Json}, hidesItems items = false →
    visibleItems items = items
  | [], _ => rfl
  | v :: rest, h => by
      rw [hidesItems, Bool.or_eq_false_iff] at h
      rw [visibleItems, visible_eq_self h.1, visibleItems_eq_self h.2]

theorem visibleMembers_eq_self : ∀ {members : List (String × Json)},
    hidesMembers members = false → visibleMembers members = members
  | [], _ => rfl
  | (name, v) :: rest, h => by
      rw [hidesMembers, Bool.or_eq_false_iff, Bool.or_eq_false_iff] at h
      rw [visibleMembers, h.1.1, visible_eq_self h.1.2, visibleMembers_eq_self h.2]
      rfl

end

/-- What a handler can give back for a body: nothing, truth values, whole numbers with no more
digits than are written, finite numbers, texts, and lists and objects of such values, whose
members have names of their own. -/
inductive Deliverable : Json → Prop
  | null : Deliverable .null
  | bool (b : Bool) : Deliverable (.bool b)
  | int {n : Int} (h : isShort n = true) : Deliverable (.int n)
  | float {x : Binary64} (h : x.isFinite = true) : Deliverable (.float x)
  | str (s : String) : Deliverable (.str s)
  | arr {items : List Json} (h : ∀ v ∈ items, Deliverable v) : Deliverable (.arr items)
  | obj {members : List (String × Json)} (hnames : (members.map (·.1)).Nodup)
      (h : ∀ m ∈ members, Deliverable m.2) : Deliverable (.obj members)

variable {v : Json} {items : List Json} {members : List (String × Json)} {style : Style}

theorem visibleItems_eq_map (items : List Json) : visibleItems items = items.map visible := by
  induction items with
  | nil => rfl
  | cons v rest ih => rw [visibleItems, List.map_cons, ih]

theorem visibleMembers_eq_map (members : List (String × Json)) :
    visibleMembers members =
      (members.filter fun m => !Text.startsWith "_sa" m.1).map fun m => (m.1, m.2.visible) := by
  induction members with
  | nil => rfl
  | cons m rest ih =>
      obtain ⟨name, v⟩ := m
      rw [visibleMembers, ih, List.filter_cons]
      cases Text.startsWith "_sa" name <;> rfl

theorem names_visibleMembers_sublist (members : List (String × Json)) :
    ((visibleMembers members).map (·.1)).Sublist (members.map (·.1)) := by
  rw [visibleMembers_eq_map, List.map_map]
  exact List.filter_sublist.map _

theorem Deliverable.visible (h : Deliverable v) : Deliverable v.visible := by
  induction h with
  | null => exact .null
  | bool b => exact .bool b
  | int hshort => exact .int hshort
  | float hfinite => exact .float hfinite
  | str s => exact .str s
  | arr _ ih =>
      rw [Json.visible, visibleItems_eq_map]
      refine .arr fun w hw => ?_
      obtain ⟨v, hv, rfl⟩ := List.mem_map.mp hw
      exact ih v hv
  | obj hnames _ ih =>
      rw [Json.visible]
      refine .obj (hnames.sublist (names_visibleMembers_sublist _)) fun n hn => ?_
      rw [visibleMembers_eq_map] at hn
      obtain ⟨m, hm, rfl⟩ := List.mem_map.mp hn
      exact ih m (List.mem_of_mem_filter hm)

/-! ## The text is read back -/

theorem length_print_le_items (style : Style) (h : v ∈ items) :
    (print style v).length ≤ (printItems style items).length := by
  induction items with
  | nil => cases h
  | cons w rest ih =>
      cases rest with
      | nil => rw [List.mem_singleton.mp h, printItems]
      | cons u rest =>
          simp only [printItems, List.length_append]
          rcases List.mem_cons.mp h with rfl | hrest
          · omega
          · have hle := ih hrest
            omega

theorem length_print_le_members (style : Style) {m : String × Json} (h : m ∈ members) :
    (print style m.2).length ≤ (printMembers style members).length := by
  induction members with
  | nil => cases h
  | cons n rest ih =>
      obtain ⟨name, w⟩ := n
      cases rest with
      | nil =>
          rw [List.mem_singleton.mp h]
          simp only [printMembers, List.length_append]
          omega
      | cons u rest =>
          simp only [printMembers, List.length_append]
          rcases List.mem_cons.mp h with rfl | hrest
          · simp only
            omega
          · have hle := ih hrest
            omega

/-- Each list and each object has two brackets in the text. -/
theorem Deliverable.restorable (h : Deliverable v) {nesting : Nat}
    (hle : (print style v).length ≤ nesting) : Restorable nesting v := by
  induction h generalizing nesting with
  | null => exact .null
  | bool b => exact .bool b
  | int hshort => exact .int hshort
  | float _ => exact .float _
  | str s => exact .str s
  | arr _ ih =>
      simp only [print, List.length_append, List.length_cons] at hle
      obtain ⟨nesting, rfl⟩ : ∃ k, nesting = k + 1 := ⟨nesting - 1, by omega⟩
      refine .arr fun v hv => ih v hv ?_
      have hitem := length_print_le_items style hv
      omega
  | obj hnames _ ih =>
      simp only [print, List.length_append, List.length_cons] at hle
      obtain ⟨nesting, rfl⟩ : ∃ k, nesting = k + 1 := ⟨nesting - 1, by omega⟩
      refine .obj hnames fun m hm => ih m hm ?_
      have hmember := length_print_le_members style hm
      omega

theorem Deliverable.isWritable (h : Deliverable v) : v.isWritable = true :=
  (h.restorable (Nat.le_refl (print .compact v).length)).isWritable

theorem Deliverable.parse?_render (h : Deliverable v) : parse? (v.render .compact) = some v := by
  have hread : read .asNumber (print .compact v).length (print .compact v) = .ok v :=
    (h.restorable (Nat.le_refl _)).read_print Style.isPlain_compact
  simp only [parse?, render, String.toList_ofList, hread]

end Json

/-! ## What is written -/

namespace Http.Payload

open Json (Deliverable visibleItems visibleMembers)

variable {v : Json}

theorem putEntry_ofJsonMembers {name : String} {members : List (String × Json)}
    (h : name ∉ members.map (·.1)) (v : Json) :
    Value.putEntry (.str name) (.ofJson v : Datum) (Value.ofJsonMembers members) =
      Value.ofJsonMembers (members ++ [(name, v)]) := by
  induction members with
  | nil => rfl
  | cons m rest ih =>
      obtain ⟨k, w⟩ := m
      rw [List.map_cons, List.mem_cons, not_or] at h
      have hother : (k == name) = false := beq_false_of_ne (Ne.symm h.1)
      rw [Value.ofJsonMembers, Value.putEntry, Value.same_str_str, hother,
        if_neg Bool.false_ne_true, ih h.2]
      rfl

theorem plainItems_ofJsonItems {items : List Json}
    (h : ∀ v ∈ items, plain (.ofJson v) = .ok (.ofJson v.visible)) :
    plainItems (Value.ofJsonItems items) = .ok (Value.ofJsonItems (visibleItems items)) := by
  induction items with
  | nil => rfl
  | cons v rest ih =>
      rw [List.forall_mem_cons] at h
      rw [Value.ofJsonItems, plainItems, h.1, ih h.2, visibleItems]
      rfl

/-- Members come to stand behind each other as long as their names differ. -/
theorem plainEntries_ofJsonMembers (done : List (String × Json)) {members : List (String × Json)}
    (h : ∀ m ∈ members, plain (.ofJson m.2) = .ok (.ofJson m.2.visible))
    (hnames : ((done ++ members).map (·.1)).Nodup) :
    plainEntries (Value.ofJsonMembers done) (Value.ofJsonMembers members) =
      .ok (Value.ofJsonMembers (done ++ visibleMembers members)) := by
  induction members generalizing done with
  | nil => rw [visibleMembers, List.append_nil, Value.ofJsonMembers, plainEntries]
  | cons m rest ih =>
      obtain ⟨name, v⟩ := m
      rw [List.forall_mem_cons] at h
      rw [Value.ofJsonMembers, plainEntries, visibleMembers, isHidden]
      cases Text.startsWith "_sa" name with
      | true =>
          have hsub : (done ++ rest).Sublist (done ++ (name, v) :: rest) :=
            (List.sublist_cons_self _ _).append_left done
          exact ih done h.2 (hnames.sublist (hsub.map _))
      | false =>
          have hnew : name ∉ done.map (·.1) := by
            rw [List.map_append, List.map_cons, List.nodup_append] at hnames
            intro hmem
            exact hnames.2.2 name hmem name List.mem_cons_self rfl
          have hrest : ((done ++ [(name, v.visible)] ++ rest).map (·.1)).Nodup := by
            simpa using hnames
          have hput := putEntry_ofJsonMembers hnew v.visible
          simp only [key, h.1, bind, Except.bind, Bool.false_eq_true, ↓reduceIte, hput]
          rw [ih _ h.2 hrest, List.append_assoc]
          rfl

/-- What JSON denotes comes through but for what is left out. -/
theorem plain_ofJson (h : Deliverable v) : plain (.ofJson v) = .ok (.ofJson v.visible) := by
  induction h with
  | null => rfl
  | bool b => rfl
  | int hshort =>
      rw [Value.ofJson, plain, whole, if_pos hshort]
      rfl
  | float hfinite =>
      rw [Value.ofJson, plain, if_pos hfinite]
      rfl
  | str s => rfl
  | arr _ ih =>
      rw [Value.ofJson, plain, plainItems_ofJsonItems ih, Json.visible]
      rfl
  | obj hnames _ ih =>
      have hentries := plainEntries_ofJsonMembers [] ih hnames
      rw [Value.ofJsonMembers, List.nil_append] at hentries
      rw [Value.ofJson, plain, hentries, Json.visible]
      rfl

theorem json_ofJson (h : Deliverable v) : json (.ofJson v) = .ok v.visible := by
  rw [json, plain_ofJson h]
  exact Value.toJson_ofJson h.visible.isWritable

end Http.Payload

/-! ## What the client gets -/

namespace Http

/-- The headers that send a session are cookies. -/
theorem SessionCookie.all_cookieHeaders {secret : String} {secure carried : Bool} {second : Nat}
    {session : Session} {extra : Headers} {name : String} (hcookie : name ≠ "set-cookie")
    (h : cookieHeaders secret secure second carried session = .ok extra) :
    extra.all name = [] := by
  have hline : ∀ line, Headers.all name [("set-cookie", line)] = [] :=
    fun line => Headers.all_cons_of_ne hcookie line []
  rw [cookieHeaders] at h
  split at h
  · injection h with h
    rw [← h]
    rfl
  · split at h
    · injection h with h
      rw [← h]
      split
      · exact hline _
      · rfl
    · obtain ⟨content, -, h⟩ := exists_of_bind_eq_ok h
      injection h with h
      rw [← h]
      exact hline _

/-- Sending leaves the headers alone that are neither about cookies nor about caching. -/
theorem SessionCookie.all_of_save {secret : String} {secure carried : Bool} {second : Nat}
    {session : Session} {given response : Response} {name : String} (hvary : name ≠ "vary")
    (hcookie : name ≠ "set-cookie")
    (h : save secret secure second carried session given = .ok response) :
    response.headers.all name = given.headers.all name := by
  rw [save] at h
  obtain ⟨extra, hextra, h⟩ := exists_of_bind_eq_ok h
  injection h with h
  rw [← h]
  split
  · rw [Headers.all_addVary hvary, Headers.all_append, all_cookieHeaders hcookie hextra,
      List.append_nil]
  · rw [Headers.all_append, all_cookieHeaders hcookie hextra, List.append_nil]

theorem Response.contentType_json (v : Json) :
    (Response.json 200 [] v).headers.all "content-type" = ["application/json"] := rfl

end Http

namespace Exchange

variable {app : Application} {x : Exchange} {visit : Visit} {v : Json}

theorem conclude_ofJson (h : v.Deliverable) (hsome : v ≠ .null) :
    x.conclude app (.value (.ofJson v)) = x.respond app (.json 200 [] v.visible) := by
  rw [conclude.eq_def]
  split
  · next heq => cases heq
  · next heq => cases heq
  · next heq =>
      injection heq with heq
      cases v <;> first | exact absurd rfl hsome | simp [Value.ofJson] at heq
  · next heq =>
      injection heq with heq
      rw [← heq, Payload.json_ofJson h]

/-- A response on its way is sent if the session can be. -/
theorem exists_along_of_answered (app : Application) {given : Response}
    (hstage : x.stage = .answered given) (haddress : x.request.hasAddress = true)
    (hsession : x.session.isSendable = true) (t : Turn) (rest : List Turn) :
    ∃ sent, SessionCookie.save app.settings.secretKey app.settings.secureCookies
        (Application.second t.moment.now).toNat x.carried x.session given = .ok sent ∧
      (along app (t :: rest) x).stage = .done sent false := by
  have hsend : (x.stepAddressed app t.moment t.standing).2 = along app (t :: rest) x := by
    rw [along_of_answered haddress hstage, stepAddressed, hstage]
  rcases send_answered app t hstage with ⟨sent, hsave, -, hdone⟩ | ⟨-, -, hunfit, -⟩
  · exact ⟨sent, hsave, by rw [← hsend, hdone]⟩
  · rw [hsession] at hunfit
    cases hunfit

/-- Two turns after its handler has given back a value a request has its response. -/
theorem along_of_value (hstage : x.stage = .handling visit [] (.value (.ofJson v)))
    (hv : v.Deliverable) (hsome : v ≠ .null) (haddress : x.request.hasAddress = true)
    (hsession : x.session.isSendable = true) (t t' : Turn) (rest : List Turn) :
    ∃ response, (along app (t :: t' :: rest) x).stage = .done response false ∧
      response.status = 200 ∧
      response.headers.all "content-type" = ["application/json"] ∧
      response.body = v.visible.render .compact := by
  have hstep : (x.step app t.moment t.standing).2 = x.respond app (.json 200 [] v.visible) := by
    rw [step_of_hasAddress haddress]
    simp only [stepAddressed, hstage]
    exact conclude_ofJson hv hsome
  obtain ⟨response, hsave, hdone⟩ :=
    exists_along_of_answered app (x := x.respond app (.json 200 [] v.visible)) rfl haddress
      hsession t' rest
  obtain ⟨hstatus, hbody⟩ := status_body_of_save hsave
  refine ⟨response, ?_, hstatus, ?_, hbody⟩
  · rw [along_cons, hstep, hdone]
  · rw [SessionCookie.all_of_save (by decide) (by decide) hsave,
      Cors.all_decorate (by decide) (by decide) (by decide), Response.contentType_json]

end Exchange

namespace Pool

open Exchange

/-- Whatever else is served meanwhile: a handler has given back a value, the session that it
leaves can be sent, and the request has an address. Then two turns later the client has a
response of status 200, whose body is JSON and is read as the value without the members that
no body has, which is the value itself if there are none. -/
theorem value_reaches_client (app : Application) {p : Pool} {i : Nat} {x : Exchange}
    {visit : Visit} {v : Json} (hx : p.exchanges[i]? = some x)
    (hstage : x.stage = .handling visit [] (.value (.ofJson v))) (hv : v.Deliverable)
    (hsome : v ≠ .null) (haddress : x.request.hasAddress = true)
    (hsession : x.session.isSendable = true) {schedule : List (Nat × Moment)}
    (hturns : 2 ≤ (momentsOf i schedule).length) :
    ∃ y response, (p.runTimed app schedule).exchanges[i]? = some y ∧
      y.stage = .done response false ∧ response.status = 200 ∧
      response.headers.all "content-type" = ["application/json"] ∧
      Json.parse? response.body = some v.visible ∧
      (v.hides = false → Json.parse? response.body = some v) := by
  obtain ⟨turns, hmoments, hy⟩ := exists_turns_runTimed app hx schedule
  rw [← hmoments, List.length_map] at hturns
  rcases turns with - | ⟨t, - | ⟨t', rest⟩⟩
  · simp at hturns
  · simp at hturns
  · obtain ⟨response, hdone, hstatus, htype, hbody⟩ :=
      along_of_value hstage hv hsome haddress hsession t t' rest
    have hparse : Json.parse? response.body = some v.visible := by
      rw [hbody]
      exact hv.visible.parse?_render
    refine ⟨_, response, hy, hdone, hstatus, htype, hparse, fun hwhole => ?_⟩
    rw [hparse, Json.visible_eq_self hwhole]

/-! A basket with a price that the client does not get. -/

def basket : Json :=
  .obj [("items", .arr [.obj [("name", .str "tea"), ("_sale", .int 3)], .null]),
    ("open", .bool false)]

def shownBasket : Json :=
  .obj [("items", .arr [.obj [("name", .str "tea")], .null]), ("open", .bool false)]

theorem deliverable_basket : basket.Deliverable := by
  have htea : (Json.obj [("name", .str "tea"), ("_sale", .int 3)]).Deliverable := by
    refine .obj (by decide) fun m hm => ?_
    simp only [List.mem_cons, List.not_mem_nil, or_false] at hm
    rcases hm with rfl | rfl
    · exact .str _
    · exact .int (by decide)
  refine .obj (by decide) fun m hm => ?_
  simp only [List.mem_cons, List.not_mem_nil, or_false] at hm
  rcases hm with rfl | rfl
  · refine .arr fun v hv => ?_
    simp only [List.mem_cons, List.not_mem_nil, or_false] at hv
    rcases hv with rfl | rfl
    · exact htea
    · exact .null
  · exact .bool false

/-- The request for it, once the handler is done. -/
def askingForBasket : Pool :=
  (ofRequests default [asking ""]).runTimed (solely [.give (.ofJson basket)])
    ((inTurns 1 4).map (·, midnight))

theorem basket_reaches_client :
    ∃ x visit y response, askingForBasket.exchanges[0]? = some x ∧
      x.stage = .handling visit [] (.value (.ofJson basket)) ∧
      x.request.hasAddress = true ∧ x.session.isSendable = true ∧
      (askingForBasket.runTimed (solely [.give (.ofJson basket)])
        [(0, midnight), (0, midnight)]).exchanges[0]? = some y ∧
      y.stage = .done response false ∧ response.status = 200 ∧
      Json.parse? response.body = some shownBasket := by
  obtain ⟨x, hx, hstage, haddress, hsession⟩ : ∃ x, askingForBasket.exchanges[0]? = some x ∧
      x.stage = .handling ⟨asking "", [], none⟩ [] (.value (.ofJson basket)) ∧
      x.request.hasAddress = true ∧ x.session.isSendable = true := ⟨_, rfl, rfl, rfl, rfl⟩
  have hturns : 2 ≤ (momentsOf 0 [(0, midnight), (0, midnight)]).length := by decide
  obtain ⟨y, response, hy, hdone, hstatus, -, hparse, -⟩ :=
    value_reaches_client (solely [.give (.ofJson basket)]) hx hstage deliverable_basket nofun
      haddress hsession hturns
  exact ⟨x, _, y, response, hx, hstage, haddress, hsession, hy, hdone, hstatus, hparse⟩

/-- What one client gets from a handler with these acts. -/
def answerTo (acts : List Act) (query : String) : Option Response :=
  response? (Exchange.serve (solely acts) midnight default (asking query)).2

/-- The client cannot tell a value that has hidden members from one that has not. And there
is not always something to read: a number can be too long, the session can hold what cannot be
sent, and a request can have no address. -/
theorem price_kept_back :
    (answerTo [.give (.ofJson (.obj [("_sale", .int 3)]))] "").map
        (fun r => (r.status, r.body)) = some (200, "\x7b\x7d") ∧
      Json.parse? "\x7b\x7d" = some (.obj []) ∧
      (answerTo [.give (.ofJson (.int (10 ^ 4300)))] "").map (·.status) = some 500 ∧
      (answerTo [.setInSession (.str "k") oddity, .give (.ofJson (.int 1))] "").map
        (·.status) = some 500 ∧
      answerTo [.give (.ofJson (.int 1))] "ÿ" = none := by
  have hempty : (Json.obj []).Deliverable :=
    .obj List.nodup_nil fun _ hm => absurd hm List.not_mem_nil
  have hrender : (Json.obj []).render .compact = "\x7b\x7d" := rfl
  refine ⟨?_, ?_, ?_, ?_, ?_⟩
  · rfl
  · rw [← hrender, hempty.parse?_render]
  · decide +kernel
  · rfl
  · rfl

end Pool

end Gatehouse
