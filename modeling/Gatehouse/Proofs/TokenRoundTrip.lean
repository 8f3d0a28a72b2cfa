import Gatehouse.Proofs.JsonText
import Gatehouse.Proofs.PlainText
import Gatehouse.Token.Verify

/-!
# A token says what it was issued for, until its last second is over

A token is JSON in bytes, in base 64, joined by dots and signed. Verifying takes the layers
off again, and each gives back what was put in: base 64 has no dot among its characters, so
the dots are found where they were put; the bytes are ASCII; the JSON reads back. What is
left is the order of the checks. A token that was issued has none of the claims that can
fail but its end, and that counts in whole seconds on both sides.
-/

namespace Gatehouse.Token

/-! ## Parts -/

open Dotted (dot segment asciiText)

/-- A token is taken apart into what it was made of. -/
theorem parts?_asciiText (header payload mark : List UInt8) :
    parts? (asciiText (segment header ++ dot :: segment payload ++ dot :: segment mark)) =
      some ⟨header, payload, mark, segment header ++ dot :: segment payload⟩ := by
  have hdot : ∀ bytes, dot ∉ segment bytes := Dotted.dot_not_mem_segment
  have hascii : ∀ b ∈ segment header ++ dot :: segment payload ++ dot :: segment mark,
      b.toNat < 0x80 := by
    intro b hb
    simp only [List.mem_append, List.mem_cons] at hb
    rcases hb with (hb | rfl | hb) | rfl | hb
    · exact Dotted.toNat_lt_of_mem_segment hb
    · decide
    · exact Dotted.toNat_lt_of_mem_segment hb
    · decide
    · exact Dotted.toNat_lt_of_mem_segment hb
  rw [parts?, Dotted.bytes_asciiText hascii, Dotted.splitLast_dot (hdot mark)]
  simp only [Option.bind_eq_bind, Option.bind_some, Dotted.splitFirst_dot (hdot header),
    Dotted.decodeBytes?_segment]
  rfl

/-- Whatever has parts has a header, and it is the same one. -/
theorem header?_of_parts? {token : String} {p : Parts} (h : parts? token = some p) :
    header? token = some p.header := by
  rw [parts?] at h
  simp only [Option.bind_eq_bind, Option.bind_eq_some_iff] at h
  obtain ⟨⟨signed, mark⟩, hlast, ⟨header, payload⟩, hfirst, bytes, hheader, _, -, _, -, hp⟩ := h
  injection hp with hp
  subst hp
  rw [header?, hlast]
  simp only [Option.bind_eq_bind, Option.bind_some, hfirst, hheader]

theorem objectOf_jsonBytes {depth : Nat} {members : List (String × Json)}
    (h : Json.Restorable (depth + 1) (.obj members)) :
    objectOf depth (jsonBytes (.obj members)) = .ok (some members) := by
  rw [objectOf, jsonBytes, Json.decode?_print Json.Style.isShown_compactAscii, Option.map_some,
    Json.readOuter, h.read_print Json.Style.isPlain_compactAscii]

/-! ## Times -/

/-- The second in which a time in microseconds lies. -/
def secondOf (time : Int) : Int := Int.fdiv time perSecond

/-- Whether a time lies in the calendar. -/
def OnCalendar (time : Int) : Prop := firstSecond ≤ secondOf time ∧ secondOf time ≤ lastSecond

/-- No duration between two times in the calendar is too long. -/
theorem endSecond_eq {now duration : Int} (hnow : OnCalendar now)
    (hend : OnCalendar (now + duration)) :
    endSecond now duration = .ok (secondOf (now + duration)) := by
  obtain ⟨hfirst, hlast⟩ := hnow
  obtain ⟨hfirst', hlast'⟩ := hend
  have hsecond : (perSecond : Int) = 1000000 := rfl
  have hday : (perDay : Int) = 86400000000 := rfl
  simp only [secondOf, firstSecond, lastSecond, hsecond] at hfirst hlast hfirst' hlast'
  have hdays : -999999999 ≤ Int.fdiv duration perDay ∧ Int.fdiv duration perDay ≤ 999999999 := by
    rw [hday]
    rw [Int.fdiv_eq_ediv_of_nonneg _ (by decide)] at *
    omega
  rw [endSecond]
  simp only
  rw [if_neg (by omega), if_neg (by omega), if_neg]
  · rfl
  · simp only [firstSecond, lastSecond, hsecond] at hfirst' hlast' ⊢
    omega

theorem isShort_of_onCalendar {time : Int} (h : OnCalendar time) :
    Json.isShort (secondOf time) = true := by
  obtain ⟨hfirst, hlast⟩ := h
  rw [firstSecond] at hfirst
  rw [lastSecond] at hlast
  refine Json.isShort_of_lt (Nat.lt_of_lt_of_le (by omega : _ < 10 ^ 12) ?_)
  exact Nat.pow_le_pow_right (by decide) (by decide)

/-! ## Keys -/

section Key

variable (a : Algorithm) {secret : String} {depth : Nat}

theorem isOffered_name : Scheme.isOffered a.name = true := by cases a <;> rfl

theorem makeKey_str (hkey : isAsymmetric (Text.Utf8.bytes secret) = false) :
    makeKey a.name (.str secret) = .ok (some (a, Text.Utf8.bytes secret)) := by
  have hscheme : Scheme.ofName? a.name = some (.keyed a) := by cases a <;> rfl
  have hbytes : keyBytes (.str secret) = .ok (Text.Utf8.bytes secret) := by
    rw [keyBytes, plainKey, hkey]
    rfl
  rw [makeKey, hscheme]
  simp only [hbytes]
  rfl

theorem candidates_str (hjson : secretJson? depth (.str secret) = none) :
    candidates depth (.str secret) = .ok [.str secret] := by
  rw [candidates, hjson]
  rfl

theorem namesAlgorithm_header (c : Config) (hname : c.algorithm = a.name) :
    namesAlgorithm c [("alg", .str a.name), ("typ", .str "JWT")] = true := by
  rw [namesAlgorithm, hname]
  cases a <;> rfl

end Key

/-! ## Issuing and verifying -/

section RoundTrip

variable {a : Algorithm} {secret : String} {lifetime : Datum} {depths : Depths}
  {subject role : Json}

/-- The token with a payload, signed with a key. -/
def tokenOf (a : Algorithm) (key : List UInt8) (payload : Json) : String :=
  asciiText (signedPart a.name payload ++
    dot :: segment (signature a key (signedPart a.name payload)))

theorem sign_eq (hkey : isAsymmetric (Text.Utf8.bytes secret) = false) (payload : Json) :
    sign ⟨.str secret, a.name, lifetime, depths⟩ payload =
      .ok (tokenOf a (Text.Utf8.bytes secret) payload) := by
  rw [sign, if_pos (isOffered_name a), makeKey_str a hkey]
  rfl

/-- A verifier with a plain secret looks at the claims of what was signed with it. -/
theorem verify_tokenOf (hjson : secretJson? depths.secret (.str secret) = none)
    (hkey : isAsymmetric (Text.Utf8.bytes secret) = false) {claims : List (String × Json)}
    (hclaims : Json.Restorable (depths.payload + 1) (.obj claims)) (now : Int) :
    verify ⟨.str secret, a.name, lifetime, depths⟩ now
        (tokenOf a (Text.Utf8.bytes secret) (.obj claims)) =
      runChecks claims (claimChecks (secondOf now)) := by
  have hheader : Json.Restorable (depths.header + 1) (headerJson a.name) := by
    have hnames : ["alg", "typ"].Nodup := by decide
    refine .obj hnames fun m hm => ?_
    simp only [List.mem_cons, List.not_mem_nil, or_false] at hm
    rcases hm with rfl | rfl
    · exact .str _
    · exact .str _
  have hread : objectOf depths.header (jsonBytes (headerJson a.name)) =
      .ok (some [("alg", .str a.name), ("typ", .str "JWT")]) := objectOf_jsonBytes hheader
  have hparts : parts? (tokenOf a (Text.Utf8.bytes secret) (.obj claims)) =
      some ⟨jsonBytes (headerJson a.name), jsonBytes (.obj claims),
        signature a (Text.Utf8.bytes secret) (signedPart a.name (.obj claims)),
        signedPart a.name (.obj claims)⟩ := parts?_asciiText _ _ _
  rw [verify, header?_of_parts? hparts]
  simp only [hread, hparts, namesAlgorithm_header a ⟨.str secret, a.name, lifetime, depths⟩ rfl,
    ↓reduceIte, candidates_str hjson, signedByAny, makeKey_str a hkey, judge,
    objectOf_jsonBytes hclaims]
  rfl

/-- Of the claims of an issued token only the end can fail. -/
theorem runChecks_issued (hsubject : Json.IsTextValue subject) (hrole : Json.IsTextValue role)
    (ends now : Int) :
    runChecks [("sub", subject), ("role", role), ("exp", .int ends)] (claimChecks now) =
      .ok (if now ≤ ends then .accepted ⟨subject, role⟩ else .expired) := by
  have htext : ∀ {v : Json}, Json.IsTextValue v → isText v = true := by
    intro v hv
    cases hv <;> rfl
  have hbearer : bearer [("sub", subject), ("role", role), ("exp", .int ends)] =
      .accepted ⟨subject, role⟩ := by
    have hfirst : [("sub", subject), ("role", role), ("exp", .int ends)].lookup "sub" =
        some subject := rfl
    have hsecond : [("sub", subject), ("role", role), ("exp", .int ends)].lookup "role" =
        some role := rfl
    rw [bearer, hfirst, hsecond]
    simp only [htext hsubject, htext hrole, Bool.and_self, ↓reduceIte]
  have hissued : timeCheck "iat" (fun _ => none)
      [("sub", subject), ("role", role), ("exp", .int ends)] = .ok none := rfl
  have hbegin : timeCheck "nbf" (fun n => if now < n then some .invalid else none)
      [("sub", subject), ("role", role), ("exp", .int ends)] = .ok none := rfl
  have hend : timeCheck "exp" (fun n => if n < now then some .expired else none)
      [("sub", subject), ("role", role), ("exp", .int ends)] =
        .ok (if ends < now then some .expired else none) := rfl
  have hname : textCheck "sub" [("sub", subject), ("role", role), ("exp", .int ends)] =
      .ok none := by
    cases hsubject <;> rfl
  rw [claimChecks]
  simp only [runChecks, hissued, hbegin, hend]
  by_cases h : ends < now
  · rw [if_pos h, if_neg (by omega)]
  · rw [if_neg h, if_pos (by omega)]
    simp only [hname, hbearer]
    rfl

/-- Texts that read back alike are signed alike. -/
theorem tokenOf_paired (key : List UInt8) (subject role : Json) (ends : Int) :
    tokenOf a key (payloadJson subject.paired role.paired ends) =
      tokenOf a key (payloadJson subject role ends) := by
  have hbytes : jsonBytes (payloadJson subject.paired role.paired ends) =
      jsonBytes (payloadJson subject role ends) := by
    simp only [jsonBytes, payloadJson, Json.print, Json.printMembers, Json.print_paired]
  rw [tokenOf, tokenOf, signedPart, signedPart, hbytes]

/-- What is issued is signed, with the second in which it ends. -/
theorem issue_eq {usual : Datum} {given duration start : Int}
    (hkey : isAsymmetric (Text.Utf8.bytes secret) = false)
    (hsubject : subject.isWritable = true) (hrole : role.isWritable = true)
    (hduration : microseconds (if 0 < given then .int given else usual) = .ok duration)
    (hstart : OnCalendar start) (hend : OnCalendar (start + duration)) :
    issue ⟨.str secret, a.name, usual, depths⟩ start (.ofJson subject) (.ofJson role)
        (.int given) =
      .ok (tokenOf a (Text.Utf8.bytes secret)
        (payloadJson subject role (secondOf (start + duration)))) := by
  have hgiven : isPositive (.int given) = .ok (decide (0 < given)) := rfl
  rw [issue, hgiven]
  simp only [bind, Except.bind, decide_eq_true_eq, hduration, issueFor,
    endSecond_eq hstart hend, isOffered_name, ↓reduceIte, Value.toJson_ofJson hsubject,
    Value.toJson_ofJson hrole, Except.mapError, sign_eq hkey]

/-- What is signed for a subject and a role stands for them as they read back, as long as its
last second is not over. -/
theorem verify_tokenOf_issued {ends : Int} (hjson : secretJson? depths.secret (.str secret) = none)
    (hkey : isAsymmetric (Text.Utf8.bytes secret) = false)
    (hsubject : Json.IsStr subject) (hrole : Json.IsStr role)
    (hends : Json.isShort ends = true) (now : Int) :
    verify ⟨.str secret, a.name, lifetime, depths⟩ now
        (tokenOf a (Text.Utf8.bytes secret) (payloadJson subject role ends)) =
      .ok (if secondOf now ≤ ends then .accepted ⟨subject.paired, role.paired⟩ else .expired) := by
  have hclaims : Json.Restorable (depths.payload + 1)
      (.obj [("sub", subject.paired), ("role", role.paired), ("exp", .int ends)]) := by
    have hnames : ["sub", "role", "exp"].Nodup := by decide
    refine .obj hnames fun m hm => ?_
    simp only [List.mem_cons, List.not_mem_nil, or_false] at hm
    rcases hm with rfl | rfl | rfl
    · exact hsubject.isTextValue_paired.restorable _
    · exact hrole.isTextValue_paired.restorable _
    · exact .int hends
  rw [← tokenOf_paired, payloadJson, verify_tokenOf hjson hkey hclaims,
    runChecks_issued hsubject.isTextValue_paired hrole.isTextValue_paired]

/-- A token stands for its subject and its role until the second in which it ends is over,
and has expired from then on. Both come back as they were, but for halves of one pair next to
each other, which come back as the character that they make. -/
theorem verify_issued (hjson : secretJson? depths.secret (.str secret) = none)
    (hkey : isAsymmetric (Text.Utf8.bytes secret) = false)
    (hsubject : Json.IsStr subject) (hrole : Json.IsStr role)
    (usual : Datum) (given duration start : Int)
    (hduration : microseconds (if 0 < given then .int given else usual) = .ok duration)
    (hstart : OnCalendar start) (hend : OnCalendar (start + duration)) :
    (∃ token,
      issue ⟨.str secret, a.name, usual, depths⟩ start (.ofJson subject) (.ofJson role)
          (.int given) = .ok token ∧
        ∀ now, verify ⟨.str secret, a.name, usual, depths⟩ now token =
          .ok (if secondOf now ≤ secondOf (start + duration)
            then .accepted ⟨subject.paired, role.paired⟩ else .expired)) ∧
      (Json.IsTextValue subject → subject.paired = subject) ∧
      (Json.IsTextValue role → role.paired = role) := by
  refine ⟨⟨_, issue_eq hkey hsubject.isWritable hrole.isWritable hduration hstart hend,
    fun now => ?_⟩, Json.IsTextValue.paired_eq, Json.IsTextValue.paired_eq⟩
  exact verify_tokenOf_issued hjson hkey hsubject hrole (isShort_of_onCalendar hend) now

/-- No list and no object inside another. -/
def flat : Depths := ⟨0, 0, 0⟩

theorem verify_issued_lone_half :
    ∃ token,
      issue ⟨.str "open sesame", "HS256", .int 60, flat⟩ 1700000000900000
          (.unpaired [0x22, 0xd83d, 0x0a]) (.str "") (.int 0) = .ok token ∧
        verify ⟨.str "open sesame", "HS256", .int 60, flat⟩ 1700000060999999 token =
          .ok (.accepted ⟨.unpaired [0x22, 0xd83d, 0x0a], .str ""⟩) ∧
        verify ⟨.str "open sesame", "HS256", .int 60, flat⟩ 1700000061000000 token =
          .ok .expired := by
  have hsubject : Json.IsStr (.unpaired [0x22, 0xd83d, 0x0a]) :=
    .unpaired (by decide) ⟨0xd83d, by decide, by decide⟩
  obtain ⟨⟨token, hissue, hverify⟩, hsame, -⟩ := verify_issued (a := .hs256)
    (by rfl : secretJson? flat.secret (.str "open sesame") = none) (by decide) hsubject (.str "")
    (.int 60) 0 60000000 1700000000900000 rfl ⟨by decide, by decide⟩ ⟨by decide, by decide⟩
  rw [hsame (.unpaired (by decide) ⟨0xd83d, by decide, by decide⟩)] at hverify
  exact ⟨token, hissue, hverify 1700000060999999, hverify 1700000061000000⟩

/-- A little less than a second, which a duration rounds to a whole one. -/
def shortOfSecond : Binary64 := Binary64.ofDecimal false 9999999 (-7)

/-- A subject of the two halves of a pair comes back as one character. A token that lasts for
less than a second, and was issued as one began, is accepted in the next. -/
theorem issued_comes_back_changed :
    (∃ token,
      issue ⟨.str "open sesame", "HS256", .int 60, flat⟩ 1700000000000000
          (.unpaired [0xd83d, 0xde00]) (.str "admin") (.int 0) = .ok token ∧
        verify ⟨.str "open sesame", "HS256", .int 60, flat⟩ 1700000000000000 token =
          .ok (.accepted ⟨.str "😀", .str "admin"⟩) ∧
        Verdict.accepted ⟨.str "😀", .str "admin"⟩ ≠
          .accepted ⟨.unpaired [0xd83d, 0xde00], .str "admin"⟩) ∧
    shortOfSecond.truncate? = some 0 ∧
    ∃ token,
      issue ⟨.str "open sesame", "HS256", .float shortOfSecond, flat⟩ 1700000000000000 (.str "u1")
          (.str "admin") (.int 0) = .ok token ∧
        verify ⟨.str "open sesame", "HS256", .float shortOfSecond, flat⟩ 1700000001000000 token =
          .ok (.accepted ⟨.str "u1", .str "admin"⟩) := by
  have hjson : secretJson? flat.secret (.str "open sesame") = none := by rfl
  have hkey : isAsymmetric (Text.Utf8.bytes "open sesame") = false := by decide
  have hhalves : Json.IsStr (.unpaired [0xd83d, 0xde00]) :=
    .unpaired (by decide) ⟨0xd83d, by decide, by decide⟩
  have hstart : OnCalendar 1700000000000000 := ⟨by decide, by decide⟩
  have hend : OnCalendar (1700000000000000 + 60000000) := ⟨by decide, by decide⟩
  have hnext : OnCalendar (1700000000000000 + 1000000) := ⟨by decide, by decide⟩
  have hrounded : microseconds (.float shortOfSecond) = .ok 1000000 := by rfl
  have hissue : issue ⟨.str "open sesame", Algorithm.hs256.name, .int 60, flat⟩ 1700000000000000
      (.ofJson (.unpaired [0xd83d, 0xde00])) (.ofJson (.str "admin")) (.int 0) = .ok _ :=
    issue_eq hkey rfl rfl rfl hstart hend
  have hissue' : issue ⟨.str "open sesame", Algorithm.hs256.name, .float shortOfSecond, flat⟩
      1700000000000000 (.ofJson (.str "u1")) (.ofJson (.str "admin")) (.int 0) = .ok _ :=
    issue_eq hkey rfl rfl hrounded hstart hnext
  refine ⟨⟨_, hissue, ?_, by simp⟩, by decide, _, hissue', ?_⟩
  · exact verify_tokenOf_issued (a := .hs256) hjson hkey hhalves (.str "admin")
      (isShort_of_onCalendar hend) 1700000000000000
  · exact verify_tokenOf_issued (a := .hs256) hjson hkey (.str "u1") (.str "admin")
      (isShort_of_onCalendar hnext) 1700000001000000

end RoundTrip

end Gatehouse.Token
