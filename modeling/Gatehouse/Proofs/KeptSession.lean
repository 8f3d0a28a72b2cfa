import Gatehouse.Exchange
import Gatehouse.Http.Jar
import Gatehouse.Proofs.JsonExtent
import Gatehouse.Proofs.SignedCookie

/-!
# What a client keeps of its session

A client knows of a session only what its jar holds, and the application only what the jar
brings. So the way of a session from one request to the next is told by two functions of
the jar: `Jar.held?` is what the application will find in it, and `Jar.store` is the jar after
a response that takes a session along. Nothing else that is said in the headers of a
response changes the jar.
-/

namespace Gatehouse.Http

/-! ## Headers -/

namespace Headers

variable {name other : String}

theorem all_append (hs hs' : Headers) : all name (hs ++ hs') = all name hs ++ all name hs' := by
  rw [all, List.filter_append, List.map_append]
  rfl

theorem all_cons_of_ne (h : other ≠ name) (value : String) (hs : Headers) :
    all other ((name, value) :: hs) = all other hs := by
  rw [all, List.filter_cons_of_neg]
  · rfl
  · rw [decide_eq_true_eq]
    exact Ne.symm h

theorem set_cons_of_ne {k : String} (h : k ≠ name) (v value : String) (hs : Headers) :
    set name value ((k, v) :: hs) = (k, v) :: set name value hs := by
  have hother : decide ((k, v).1 ≠ name) = true := decide_eq_true h
  simp only [set, List.any_cons, decide_eq_false h, Bool.false_or]
  split
  · simp only [List.takeWhile_cons, List.dropWhile_cons, hother, ↓reduceIte, List.cons_append]
  · rfl

/-- Setting a header leaves those of other names. -/
theorem all_set (h : other ≠ name) (value : String) (hs : Headers) :
    all other (set name value hs) = all other hs := by
  induction hs with
  | nil => exact all_cons_of_ne h value []
  | cons p hs ih =>
      obtain ⟨k, v⟩ := p
      by_cases hk : k = name
      · subst hk
        have hset : set k value ((k, v) :: hs) = (k, value) :: hs.filter fun h => h.1 ≠ k := by
          simp [set]
        have hfilter : all other (hs.filter fun h => h.1 ≠ k) = all other hs := by
          rw [all, all, List.filter_filter]
          refine congrArg _ (List.filter_congr fun p _ => ?_)
          rw [Bool.and_eq_left_iff_imp, decide_eq_true_eq, decide_eq_true_eq]
          rintro rfl
          exact h
        rw [hset, all_cons_of_ne h, all_cons_of_ne h, hfilter]
      · rw [set_cons_of_ne hk]
        simp only [all, List.filter_cons] at ih ⊢
        split
        · rw [List.map_cons, List.map_cons, ih]
        · exact ih

theorem all_addVary (h : other ≠ "vary") (what : String) (hs : Headers) :
    all other (addVary what hs) = all other hs := all_set h _ hs

end Headers

/-- What a browser of another origin needs to know stands in headers of its own. -/
theorem Cors.all_decorate {name : String} (hvary : name ≠ "vary")
    (hcredentials : name ≠ "access-control-allow-credentials")
    (horigin : name ≠ "access-control-allow-origin") (origins : List String) (r : Request)
    (response : Response) :
    (decorate origins r response).headers.all name = response.headers.all name := by
  rw [decorate]
  split
  · exact Headers.all_addVary hvary _ _
  · simp only
    split
    · rw [nameOrigin, Headers.all_addVary hvary, Headers.all_set horigin,
        Headers.all_set hcredentials]
    · rw [Headers.all_addVary hvary, Headers.all_set hcredentials]

/-! ## Sessions as they come in -/

namespace SessionCookie

theorem load_eq_ofEntries {depth : Nat} {secret : String} {now : Int} {r : Request} {a : Arrival}
    (h : load depth secret now r = some a) : ∃ entries, a.session = .ofEntries entries := by
  rw [load] at h
  split at h
  · injection h with h
    exact ⟨[], h ▸ rfl⟩
  · split at h
    · obtain ⟨content, -, h⟩ := Option.bind_eq_some_iff.mp h
      obtain ⟨entries, -, h⟩ := Option.bind_eq_some_iff.mp h
      injection h with h
      exact ⟨entries, h ▸ rfl⟩
    · split at h
      · cases h
      · injection h with h
        exact ⟨[], h ▸ rfl⟩

/-- Whether a session was brought does not depend on how deep it may go. -/
theorem carried_eq_of_load {depth depth' : Nat} {secret : String} {now : Int} {r : Request}
    {a a' : Arrival} (h : load depth secret now r = some a)
    (h' : load depth' secret now r = some a') : a.carried = a'.carried := by
  have hbrought : ∀ {depth : Nat} {value : List UInt8} {a : Arrival}, (do
      let content ← contentOf? depth value
      let entries ← entries? content
      pure ⟨.ofEntries entries, true⟩ : Option Arrival) = some a → a.carried = true := by
    intro depth value a hread
    obtain ⟨content, -, hread⟩ := Option.bind_eq_some_iff.mp hread
    obtain ⟨entries, -, hread⟩ := Option.bind_eq_some_iff.mp hread
    injection hread with hread
    exact hread ▸ rfl
  rw [load] at h h'
  split at h
  · next hnone =>
      simp only [hnone] at h'
      rw [← Option.some.inj h, ← Option.some.inj h']
  · next hsome =>
      simp only [hsome] at h'
      split at h
      · next hfresh =>
          rw [if_pos hfresh] at h'
          rw [hbrought h, hbrought h']
      · next hfresh =>
          rw [if_neg hfresh] at h'
          split at h
          · cases h
          · next hlate =>
              rw [if_neg hlate] at h'
              rw [← Option.some.inj h, ← Option.some.inj h']

/-- A session as it has come in leaves a response as it is. -/
theorem save_ofEntries (secret : String) (secure : Bool) (second : Nat) (carried : Bool)
    (entries : List (Datum × Datum)) (response : Response) :
    save secret secure second carried (.ofEntries entries) response = .ok response := by
  have hheaders : cookieHeaders secret secure second carried (.ofEntries entries) = .ok [] := rfl
  have htouched : (Session.ofEntries entries).touched = false := rfl
  rw [save, hheaders]
  simp only [bind, Except.bind, pure, Except.pure, htouched, Bool.false_eq_true, ↓reduceIte,
    List.append_nil]

end SessionCookie

namespace Jar

open SessionCookie (cookieName)

variable {depth : Nat} {secret : String} {second : Nat} {now : Int} {j : Jar} {r : Request}

/-! ## What a jar brings -/

/-- The session cookie that the jar brings. -/
def brought? (j : Jar) : Option String :=
  j.cookie.bind fun c =>
    (SessionCookie.cookiesOf (cookieName ++ "=" ++ c)).reverse.lookup cookieName

theorem cookie?_attach (j : Jar) (h : r.headers.first? "cookie" = none) :
    SessionCookie.cookie? (j.attach r) = j.brought? := by
  have hnone : Headers.all "cookie" r.headers = [] := by
    rw [Headers.first?, List.lookup_eq_none_iff] at h
    rw [Headers.all, List.filter_eq_nil_iff.mpr]
    · rfl
    · intro p hp hname
      exact absurd (of_decide_eq_true hname).symm (by simpa using h p hp)
  rw [attach.eq_def, SessionCookie.cookie?, SessionCookie.cookies]
  obtain ⟨_ | c⟩ := j
  · simp only [hnone]
    rfl
  · simp only [h, Headers.all_append, hnone]
    rw [List.nil_append]
    simp only [Headers.all, List.filter_cons_of_pos, List.filter_nil, decide_true, List.map_cons,
      List.map_nil, List.flatMap_cons, List.flatMap_nil, List.append_nil]
    rfl

/-- A jar brings nothing but its cookie. -/
theorem first?_attach {name : String} (h : name ≠ "cookie") (j : Jar) (r : Request) :
    (j.attach r).headers.first? name = r.headers.first? name := by
  rw [attach.eq_def]
  split
  · next c _ _ =>
      have hnone : [("cookie", cookieName ++ "=" ++ c)].lookup name = none := by
        rw [List.lookup_eq_none_iff]
        intro p hp
        rw [List.mem_singleton.mp hp]
        exact bne_iff_ne.mpr h
      rw [Headers.first?, Headers.first?, List.lookup_append, hnone, Option.or_none]
  · rfl

/-- What is signed in the jar, and when it was. -/
def signed? (secret : String) (j : Jar) : Option (List UInt8 × Nat) :=
  j.brought?.bind fun c => SessionCookie.unsign? secret (Text.Utf8.bytes c)

/-- The entries of the session in the jar, whatever its age; a jar in which nothing is signed
holds an empty one. -/
def held? (depth : Nat) (secret : String) (j : Jar) : Option (List (Datum × Datum)) :=
  match j.signed? secret with
  | some (value, _) => (SessionCookie.contentOf? depth value).bind SessionCookie.entries?
  | none => some []

/-- Whether what is signed in the jar, if anything is, is good at a second. -/
def IsFresh (secret : String) (now : Int) (j : Jar) : Prop :=
  ∀ value second, j.signed? secret = some (value, second) →
    SessionCookie.isFresh now second = true

/-- Whether the session in the jar, if there is one, is an object. -/
def HoldsObject (depth : Nat) (secret : String) (j : Jar) : Prop :=
  ∀ value second content, j.signed? secret = some (value, second) →
    SessionCookie.contentOf? depth value = some content → ∃ members, content = .obj members

/-- A session that comes in is empty, or what the jar holds. -/
theorem load_attach {a : SessionCookie.Arrival} (hbare : r.headers.first? "cookie" = none)
    (h : SessionCookie.load depth secret now (j.attach r) = some a) :
    ∃ entries, a.session = .ofEntries entries ∧
      (entries = [] ∨ j.held? depth secret = some entries) := by
  rw [SessionCookie.load, cookie?_attach j hbare, ← signed?.eq_def] at h
  split at h
  · injection h with h
    subst h
    exact ⟨[], rfl, Or.inl rfl⟩
  · next value second hsigned =>
      split at h
      · simp only [Option.bind_eq_bind, Option.bind_eq_some_iff, Option.pure_def,
          Option.some.injEq] at h
        obtain ⟨content, hcontent, entries, hentries, rfl⟩ := h
        refine ⟨entries, rfl, Or.inr ?_⟩
        simp only [held?, hsigned, hcontent, Option.bind_some, hentries]
      · split at h
        · cases h
        · injection h with h
          subst h
          exact ⟨[], rfl, Or.inl rfl⟩

/-- While what is in the jar is good, it says what comes in. -/
theorem load_attach_of_isFresh (hbare : r.headers.first? "cookie" = none)
    (hfresh : j.IsFresh secret now) :
    SessionCookie.load depth secret now (j.attach r) =
      (j.held? depth secret).map fun entries =>
        ⟨.ofEntries entries, (j.signed? secret).isSome⟩ := by
  rw [SessionCookie.load, cookie?_attach j hbare, ← signed?.eq_def, held?]
  split
  · next hsigned => rw [hsigned]; rfl
  · next value second hsigned =>
      rw [if_pos (hfresh value second hsigned), hsigned]
      simp only [Option.bind_eq_bind, Option.pure_def, Option.isSome_some]
      cases SessionCookie.contentOf? depth value with
      | none => rfl
      | some content => exact Option.map_eq_bind.symm

/-! ## What a jar keeps -/

/-- The jar after a response that takes a session along. -/
def store (secret : String) (second : Nat) (carried : Bool) (s : Session) (j : Jar) :
    Except Value.NotJson Jar :=
  if !s.changed then .ok j
  else if s.entries.isEmpty then .ok (if carried then empty else j)
  else (Value.toJson (.dict s.entries)).map fun content =>
    ⟨some (SessionCookie.ofJson secret second content)⟩

theorem store_cases {kept : Jar} {carried : Bool} {s : Session}
    (h : j.store secret second carried s = .ok kept) :
    kept = j ∨ kept = empty ∨ ∃ members, Value.toJsonMembers s.entries = .ok members ∧
      kept = ⟨some (SessionCookie.ofJson secret second (.obj members))⟩ := by
  rw [store] at h
  split at h
  · injection h with h
    exact Or.inl h.symm
  split at h
  · injection h with h
    cases carried with
    | true => exact Or.inr (Or.inl h.symm)
    | false => exact Or.inl h.symm
  · obtain ⟨content, hcontent, rfl⟩ := exists_of_map_eq_ok h
    rw [Value.toJson] at hcontent
    obtain ⟨members, hmembers, rfl⟩ := exists_of_map_eq_ok hcontent
    exact Or.inr (Or.inr ⟨members, hmembers, rfl⟩)

/-- What a line that sets the session cookie sets it to. -/
theorem sent?_line {line value : String} {behind : List Char}
    (hline : line.toList = cookieName.toList ++ '=' :: (value.toList ++ ';' :: behind))
    (hvalue : ';' ∉ value.toList) : sent? line = some value := by
  have hmark : (cookieName ++ "=").toList = cookieName.toList ++ ['='] := String.toList_append
  have hsplit : line.toList = (cookieName ++ "=").toList ++ (value.toList ++ ';' :: behind) := by
    rw [hline, hmark, List.append_assoc]
    rfl
  have htake : (value.toList ++ ';' :: behind).takeWhile (· != ';') = value.toList := by
    rw [List.takeWhile_append_of_pos]
    · exact List.append_nil _
    · intro c hc
      rw [bne_iff_ne]
      rintro rfl
      exact hvalue hc
  simp only [sent?, hsplit, List.isPrefixOf_iff_prefix, List.prefix_append, ↓reduceIte,
    List.drop_left, htake, String.ofList_toList]

theorem take_sending (secure : Bool) (secret : String) (second : Nat) (content : Json) (j : Jar) :
    j.take (SessionCookie.sending secure (SessionCookie.ofJson secret second content)) =
      ⟨some (SessionCookie.ofJson secret second content)⟩ := by
  have hchars := SessionCookie.isCookieChar_ofJson secret second content
  have hsemicolon : ';' ∉ (SessionCookie.ofJson secret second content).toList :=
    fun hmem => absurd (hchars _ hmem) (by decide)
  have hgone : SessionCookie.ofJson secret second content ≠ gone := by
    obtain ⟨mark, hparts⟩ := SessionCookie.toList_ofJson secret second content
    intro heq
    have hdot : '.' ∈ gone.toList := by
      rw [← heq, hparts]
      simp
    exact absurd hdot (by decide)
  have hline : ∃ behind, (SessionCookie.sending secure
      (SessionCookie.ofJson secret second content)).toList =
        cookieName.toList ++ '=' ::
          ((SessionCookie.ofJson secret second content).toList ++ ';' :: behind) := by
    refine ⟨" path=/; Max-Age=".toList ++ (toString SessionCookie.maxAge ++ "; " ++
      SessionCookie.flags secure).toList, ?_⟩
    have hpath : "; path=/; Max-Age=".toList = ';' :: " path=/; Max-Age=".toList := rfl
    have hequals : "=".toList = ['='] := rfl
    simp only [SessionCookie.sending, String.toList_append, List.append_assoc, hpath, hequals,
      List.cons_append, List.nil_append]
  obtain ⟨behind, hline⟩ := hline
  rw [take, sent?_line hline hsemicolon]
  simp only [if_neg hgone]

theorem take_clearing (secure : Bool) (j : Jar) :
    j.take (SessionCookie.clearing secure) = empty := by
  have hline : ∃ behind, (SessionCookie.clearing secure).toList =
      cookieName.toList ++ '=' :: (gone.toList ++ ';' :: behind) := by
    refine ⟨" path=/; expires=Thu, 01 Jan 1970 00:00:00 GMT; ".toList ++
      (SessionCookie.flags secure).toList, ?_⟩
    have hnull : "=null; path=/; expires=Thu, 01 Jan 1970 00:00:00 GMT; ".toList =
        '=' :: (gone.toList ++ ';' :: " path=/; expires=Thu, 01 Jan 1970 00:00:00 GMT; ".toList) :=
      rfl
    simp only [SessionCookie.clearing, String.toList_append, hnull, List.append_assoc,
      List.cons_append]
  obtain ⟨behind, hline⟩ := hline
  rw [take, sent?_line hline (by decide)]
  rfl

/-- Of a response only its session, and what was said of the cookie before, reaches the jar. -/
theorem keep_save (secure : Bool) {carried : Bool} {s : Session} (response : Response) :
    (SessionCookie.save secret secure second carried s response).map j.keep =
      (j.keep response).store secret second carried s := by
  have hkeep : ∀ extra : Headers,
      j.keep { response with
        headers := if s.touched then (response.headers ++ extra).addVary "Cookie"
          else response.headers ++ extra } =
        (extra.all "set-cookie").foldl take (j.keep response) := by
    intro extra
    have hall : Headers.all "set-cookie" (if s.touched then
        (response.headers ++ extra).addVary "Cookie" else response.headers ++ extra) =
          response.headers.all "set-cookie" ++ extra.all "set-cookie" := by
      split
      · rw [Headers.all_addVary (by decide), Headers.all_append]
      · rw [Headers.all_append]
    rw [keep, hall, List.foldl_append]
    rfl
  have hline : ∀ line : String, Headers.all "set-cookie" [("set-cookie", line)] = [line] :=
    fun _ => rfl
  rw [SessionCookie.save, SessionCookie.cookieHeaders, store]
  cases s.changed with
  | false =>
      simp only [Bool.not_false, ↓reduceIte]
      exact congrArg Except.ok (hkeep [])
  | true =>
      simp only [Bool.not_true, Bool.false_eq_true, ↓reduceIte]
      split
      · refine (congrArg Except.ok (hkeep _)).trans ?_
        cases carried with
        | false => rfl
        | true =>
            simp only [↓reduceIte, hline, List.foldl_cons, List.foldl_nil, take_clearing]
      · cases Value.toJson (.dict s.entries) with
        | error e => rfl
        | ok content =>
            refine (congrArg Except.ok (hkeep _)).trans ?_
            simp only [hline, List.foldl_cons, List.foldl_nil, take_sending]
            rfl

theorem keep_eq_self {response : Response} (h : response.headers.all "set-cookie" = []) :
    j.keep response = j := by
  rw [keep, h]
  rfl

/-- What a response says of the session cookie, if it says anything, is all that counts. -/
theorem keep_of {p : Jar → Prop} {response : Response} (hj : p j)
    (hresponse : p (empty.keep response)) : p (j.keep response) := by
  have hlines : ∀ lines : List String,
      lines.foldl take j = j ∨ lines.foldl take j = lines.foldl take empty := by
    intro lines
    induction lines using List.reverseRecOn with
    | nil => exact Or.inl rfl
    | append_singleton lines line ih =>
        simp only [List.foldl_append, List.foldl_cons, List.foldl_nil]
        rw [take.eq_def, take.eq_def]
        split
        · exact ih
        · exact Or.inr rfl
  rw [keep] at hresponse ⊢
  rcases hlines (response.headers.all "set-cookie") with h | h
  · rwa [h]
  · rwa [h]

theorem keep_decorate (origins : List String) (r : Request) (response : Response) (j : Jar) :
    j.keep (Cors.decorate origins r response) = j.keep response := by
  rw [keep, Cors.all_decorate (by decide) (by decide) (by decide), keep]

/-- An error that a client is told about says nothing of the session. -/
theorem keep_ofApiError (e : ApiError) (j : Jar) : j.keep (ErrorBody.ofApiError e) = j := by
  refine keep_eq_self ?_
  rw [ErrorBody.ofApiError, ErrorBody.response, Response.json, Response.make]
  simp only [Headers.ofPairs, List.map_nil, List.nil_append, Headers.all_append]
  rw [List.append_eq_nil_iff]
  constructor
  · split <;> rfl
  · split <;> rfl

/-! ## What comes back -/

theorem signed?_ofJson (secret : String) (second : Nat) (content : Json) :
    signed? secret ⟨some (SessionCookie.ofJson secret second content)⟩ =
      if (SessionCookie.minimalBytes second).length ≤ 8 then
        some (Text.Utf8.encode (SessionCookie.contentText content), second)
      else none := by
  have hbrought : brought? ⟨some (SessionCookie.ofJson secret second content)⟩ =
      some (SessionCookie.ofJson secret second content) := by
    rw [brought?, Option.bind_some,
      SessionCookie.cookiesOf_line (SessionCookie.isCookieChar_ofJson secret second content)]
    rfl
  rw [signed?, hbrought, Option.bind_some, SessionCookie.bytes_ofJson, SessionCookie.unsign?_sign]

/-- What has just been signed is good. -/
theorem isFresh_ofJson (secret : String) (second : Nat) (content : Json) :
    IsFresh secret second ⟨some (SessionCookie.ofJson secret second content)⟩ := by
  intro value sent hsigned
  rw [signed?_ofJson] at hsigned
  split at hsigned
  · injection hsigned with hsigned
    injection hsigned with _ hsecond
    rw [← hsecond, SessionCookie.isFresh, Int.sub_self]
    rfl
  · cases hsigned

/-- A jar with a signed cookie that holds a number. -/
def numbered : Jar := ⟨some (SessionCookie.ofJson "" 0 (.int 5))⟩

/-- A session must be an object, and a number is none. -/
theorem load_numbered (hbare : r.headers.first? "cookie" = none) :
    SessionCookie.load depth "" 0 (numbered.attach r) = none := by
  have hheld : numbered.held? depth "" = none := by
    rw [held?, numbered, signed?_ofJson,
      if_pos (SessionCookie.length_minimalBytes (by decide))]
    have hnumber : Json.Restorable (depth + 1) (.int 5) := .int (by decide)
    simp only [SessionCookie.contentOf?_encode,
      hnumber.read_print Json.Style.isPlain_spacedAscii]
    rfl
  have hfresh : numbered.IsFresh "" 0 := isFresh_ofJson "" 0 (.int 5)
  rw [load_attach_of_isFresh hbare hfresh, hheld]
  rfl

/-- What a jar holds that has kept a session is what its JSON is read as. -/
theorem held?_ofJson {content : Json} {entries : List (Datum × Datum)}
    (h : held? depth secret ⟨some (SessionCookie.ofJson secret second content)⟩ = some entries) :
    entries = [] ∨ ∃ w, Json.read .asNumber (depth + 1) (content.print .spacedAscii) = .ok w ∧
      SessionCookie.entries? w = some entries := by
  rw [held?, signed?_ofJson] at h
  split at h
  · next hsigned =>
      split at hsigned
      · injection hsigned with hsigned
        injection hsigned with hvalue
        rw [← hvalue, SessionCookie.contentOf?_encode] at h
        obtain ⟨w, hread, hentries⟩ := Option.bind_eq_some_iff.mp h
        refine Or.inr ⟨w, ?_, hentries⟩
        cases hw : Json.read .asNumber (depth + 1) (content.print .spacedAscii) with
        | error e => rw [hw] at hread; cases hread
        | ok found =>
            rw [hw] at hread
            injection hread with hread
            rw [hread]
      · cases hsigned
  · injection h with h
    exact Or.inl h.symm

theorem held?_ofJson_obj {members : List (String × Json)}
    (hmembers : Json.Restorable (depth + 1) (.obj members)) (hsecond : second < 2 ^ 64) :
    held? depth secret ⟨some (SessionCookie.ofJson secret second (.obj members))⟩ =
      some (Value.ofJsonMembers members) := by
  rw [held?, signed?_ofJson, if_pos (SessionCookie.length_minimalBytes hsecond)]
  simp only [SessionCookie.contentOf?_encode,
    hmembers.read_print Json.Style.isPlain_spacedAscii]
  rfl

theorem restorable_of_contentOf? {value : List UInt8} {content : Json}
    (h : SessionCookie.contentOf? depth value = some content) :
    Json.Restorable (depth + 1) content := by
  simp only [SessionCookie.contentOf?, Option.bind_eq_bind, Option.bind_eq_some_iff] at h
  obtain ⟨bytes, -, hread⟩ := h
  cases hbytes : Json.readBytes .asNumber depth bytes with
  | error e => rw [hbytes] at hread; cases hread
  | ok found =>
      rw [hbytes] at hread
      injection hread with hread
      subst hread
      rw [Json.readBytes] at hbytes
      split at hbytes
      · exact Json.restorable_of_read hbytes
      · cases hbytes

theorem holdsObject_empty : empty.HoldsObject depth secret := by
  intro value second content hsigned
  cases hsigned

theorem holdsObject_ofJson (secret : String) (second : Nat) (members : List (String × Json)) :
    HoldsObject depth secret ⟨some (SessionCookie.ofJson secret second (.obj members))⟩ := by
  intro value sent content hsigned hcontent
  rw [signed?_ofJson] at hsigned
  split at hsigned
  · injection hsigned with hsigned
    injection hsigned with hvalue
    rw [← hvalue, SessionCookie.contentOf?_encode] at hcontent
    cases hread : Json.read .asNumber (depth + 1) ((Json.obj members).print .spacedAscii) with
    | error e => rw [hread] at hcontent; cases hcontent
    | ok found =>
        obtain ⟨ms, rfl, -⟩ := Json.read_print_obj Json.Style.isPlain_spacedAscii hread
        rw [hread] at hcontent
        injection hcontent with hcontent
        exact ⟨ms, hcontent.symm⟩
  · cases hsigned

theorem HoldsObject.store {kept : Jar} {carried : Bool} {s : Session}
    (hj : j.HoldsObject depth secret)
    (h : j.store secret second carried s = .ok kept) : kept.HoldsObject depth secret := by
  rcases store_cases h with rfl | rfl | ⟨members, -, rfl⟩
  · exact hj
  · exact holdsObject_empty
  · exact holdsObject_ofJson secret second members

/-- The entries of an object can be written and read again. -/
theorem HoldsObject.restorable (hobject : j.HoldsObject depth secret)
    {entries : List (Datum × Datum)} (h : j.held? depth secret = some entries) :
    ∃ members, Json.Restorable (depth + 1) (.obj members) ∧
      entries = Value.ofJsonMembers members := by
  rw [held?] at h
  split at h
  · next value second hsigned =>
      obtain ⟨content, hcontent, hentries⟩ := Option.bind_eq_some_iff.mp h
      have hrestorable := restorable_of_contentOf? hcontent
      obtain ⟨members, rfl⟩ := hobject value second content hsigned hcontent
      injection hentries with hentries
      exact ⟨members, hrestorable, hentries.symm⟩
  · injection h with h
    exact ⟨[], .obj List.nodup_nil fun m hm => absurd hm List.not_mem_nil, h.symm⟩

theorem eraseEntry_ofJsonMembers (name : String) (members : List (String × Json)) :
    Value.eraseEntry (.str name) (Value.ofJsonMembers members : List (Datum × Datum)) =
      Value.ofJsonMembers (members.filter fun m => m.1 ≠ name) := by
  induction members with
  | nil => rfl
  | cons m members ih =>
      obtain ⟨k, v⟩ := m
      rw [Value.eraseEntry] at ih ⊢
      rw [Value.ofJsonMembers, List.filter_cons, List.filter_cons, ih]
      simp only [Value.same_str_str]
      by_cases hk : k = name
      · simp [hk]
      · simp [hk, Value.ofJsonMembers]

theorem restorable_filter {members : List (String × Json)} (p : String × Json → Bool)
    (h : Json.Restorable (depth + 1) (.obj members)) :
    Json.Restorable (depth + 1) (.obj (members.filter p)) := by
  cases h with
  | obj hnames hmembers =>
      exact .obj (hnames.sublist (List.filter_sublist.map _))
        fun m hm => hmembers m (List.mem_of_mem_filter hm)

theorem store_of_unchanged {carried : Bool} {s : Session} (h : s.changed = false) :
    j.store secret second carried s = .ok j := by
  rw [store, h]
  rfl

theorem eraseEntry_eq_self {key : Datum} {entries : List (Datum × Datum)}
    (h : Value.entry? key entries = none) : Value.eraseEntry key entries = entries := by
  induction entries with
  | nil => rfl
  | cons e entries ih =>
      obtain ⟨k, v⟩ := e
      rw [Value.entry?] at h
      split at h
      · cases h
      · next hsame =>
          rw [Value.eraseEntry] at ih ⊢
          rw [List.filter_cons_of_pos (by simpa using hsame), ih h]

theorem pop_of_entry {key v : Datum} {entries : List (Datum × Datum)}
    (h : Value.entry? key entries = some v) :
    (Session.ofEntries entries).touch.pop key = ⟨Value.eraseEntry key entries, true, true⟩ := by
  rw [Session.pop, Session.get?]
  simp only [Session.ofEntries, Session.touch, h]

/-- A session out of which a name was taken is kept without it, and is otherwise what it was:
it is sent anew, taken back if nothing is left in it, or not sent if the name was not in
it. -/
theorem held?_store_pop {entries : List (Datum × Datum)} (hobject : j.HoldsObject depth secret)
    (hheld : j.held? depth secret = some entries) (hsecond : second < 2 ^ 64) (name : String) :
    ∃ kept, j.store secret second (j.signed? secret).isSome
        ((Session.ofEntries entries).touch.pop (.str name)) = .ok kept ∧
      kept.held? depth secret = some (Value.eraseEntry (.str name) entries) := by
  cases hget : Value.entry? (.str name) entries with
  | none =>
      have hpop : (Session.ofEntries entries).touch.pop (.str name) =
          (Session.ofEntries entries).touch.touch := by
        rw [Session.pop, Session.get?]
        simp only [Session.ofEntries, Session.touch, hget]
      refine ⟨j, ?_, ?_⟩
      · rw [hpop]
        exact store_of_unchanged rfl
      · rw [hheld, eraseEntry_eq_self hget]
  | some v =>
      have hsigned : (j.signed? secret).isSome = true := by
        rw [held?] at hheld
        split at hheld
        · next hsigned => rw [hsigned]; rfl
        · injection hheld with hheld
          rw [← hheld] at hget
          cases hget
      obtain ⟨members, hmembers, rfl⟩ := hobject.restorable hheld
      rw [pop_of_entry hget, hsigned, eraseEntry_ofJsonMembers, store]
      simp only [Bool.not_true, Bool.false_eq_true, ↓reduceIte]
      split
      · next hempty =>
          refine ⟨empty, rfl, ?_⟩
          rw [List.isEmpty_iff.mp hempty]
          rfl
      · have hleft := restorable_filter (fun m => m.1 ≠ name) hmembers
        have hwritable := hleft.isWritable
        rw [Json.isWritable] at hwritable
        refine ⟨_, by rw [Value.toJson, Value.toJsonMembers_ofJson hwritable]; rfl, ?_⟩
        exact held?_ofJson_obj hleft hsecond

end Jar

end Gatehouse.Http
