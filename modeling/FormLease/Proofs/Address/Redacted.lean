import FormLease.Postgres.Store
import FormLease.Proofs.Text.Offset

/-!
# What a redacted address gives away

The three marks of an address are searched for one after the other, and a
password may hold all of them. It does not matter. The first `://` is the
one after the scheme, because no two occurrences of it overlap, so none can
begin in the scheme and end in the mark behind it. The last `@` is the last
one of what follows the password, and the first `:` is the one in front of
the password. What is cut out therefore begins at the password and ends
behind it, and the rest is the same for every password.

For the same reasons the marks of a redacted address are where they were, with
three asterisks between them (`Marked.masked`). So redacting it again changes
nothing.

Slicing the address at the bytes of its marks gives the same text: a slice
that does not exist is never asked for.
-/

namespace FormLease.Address

/-! ## The marks of a written address -/

/-- No `://` begins in a scheme without one and ends in the mark behind it. -/
theorem not_infix_dropLast {scheme : List Char} (h : ¬ "://".toList <:+: scheme) :
    ¬ "://".toList <:+: scheme ++ "://".toList.dropLast := by
  have hfront : scheme ++ "://".toList.dropLast = scheme ++ [':'] ++ ['/'] := by simp
  rw [hfront, List.infix_concat_iff, List.infix_concat_iff]
  rintro (hends | hends | hin)
  · -- the mark would end in a colon and a slash
    have hlast : "://".toList.reverse <+: ['/', ':'] ++ scheme.reverse := by
      simpa using List.reverse_prefix.mpr hends
    simp at hlast
  · have hlast : "://".toList.reverse <+: [':'] ++ scheme.reverse := by
      simpa using List.reverse_prefix.mpr hends
    simp at hlast
  · exact h hin

theorem cut?_mark {scheme : List Char} (h : ¬ "://".toList <:+: scheme) (rest : List Char) :
    Text.cut? "://".toList (scheme ++ "://".toList ++ rest) = some (scheme, rest) :=
  (Text.cut?_eq_some_iff (by decide)).mpr ⟨rfl, not_infix_dropLast h⟩

theorem redactedChars_of_marks {scheme user place : List Char}
    (hscheme : ¬ "://".toList <:+: scheme) (huser : ':' ∉ user) (hplace : '@' ∉ place)
    (secret : List Char) :
    redactedChars (scheme ++ "://".toList ++ ((user ++ ':' :: secret) ++ '@' :: place))
      = scheme ++ "://".toList ++ user ++ ':' :: mask ++ '@' :: place := by
  have hrest : Text.cutLast? '@' ((user ++ ':' :: secret) ++ '@' :: place)
      = some (user ++ ':' :: secret, place) := Text.cutLast?_append hplace _
  have hcredentials : Text.cut? [':'] (user ++ ':' :: secret) = some (user, secret) :=
    Text.cut?_singleton_eq_some_iff.mpr ⟨rfl, huser⟩
  simp only [redactedChars, cut?_mark hscheme, hrest, hcredentials]

/-! ## Slices -/

theorem redactedBySlices?_eq (address : String) :
    redactedBySlices? address = some (redacted address) := by
  obtain ⟨hplace, hcut⟩ | ⟨scheme, rest, rfl, hplace, hcut⟩ :=
    Text.placeOf?_cases (show "://".toList ≠ [] by decide) address
  · simp only [redactedBySlices?, hplace, redacted, redactedChars, hcut, String.ofList_toList]
  have hsize : scheme.utf8ByteSize + 3 = (scheme ++ "://").utf8ByteSize := by
    rw [String.utf8ByteSize_append]
    rfl
  obtain ⟨hlast, hcutLast⟩ | ⟨credentials, shown, rfl, hlast, hcutLast⟩ :=
    Text.lastPlaceOf?_cases '@' rest
  · simp only [redactedBySlices?, hplace, hsize, Text.slice?_drop, hlast, redacted, redactedChars,
      hcut, hcutLast, String.ofList_toList, Option.bind_eq_bind, Option.bind_some]
  have hcolonText : ":".toList = [':'] := rfl
  obtain ⟨hcolon, hcutColon⟩ | ⟨user, password, rfl, hcolon, hcutColon⟩ :=
    Text.placeOf?_cases (show ":".toList ≠ [] by decide) credentials
  · rw [hcolonText] at hcutColon
    simp only [redactedBySlices?, hplace, hsize, Text.slice?_drop, Text.slice?_take, hlast, hcolon,
      redacted, redactedChars, hcut, hcutLast, hcutColon, String.ofList_toList,
      Option.bind_eq_bind, Option.bind_some]
  · rw [hcolonText] at hcutColon
    have huser : Text.slice? (user ++ ":" ++ password ++ (String.singleton '@' ++ shown)) 0
        user.utf8ByteSize = some user := by
      rw [String.append_assoc, String.append_assoc]
      exact Text.slice?_take user _
    have hshown : redacted
          (scheme ++ "://" ++ (user ++ ":" ++ password ++ (String.singleton '@' ++ shown)))
        = scheme ++ "://" ++ user ++ ":***" ++ (String.singleton '@' ++ shown) := by
      rw [← String.toList_inj]
      simp only [redacted, redactedChars, hcut, hcutLast, hcutColon, String.toList_ofList]
      simp [mask]
    simp only [redactedBySlices?, hplace, hsize, Text.slice?_drop, Text.slice?_take, hlast, hcolon,
      huser, hshown, Option.bind_eq_bind, Option.bind_some]

/-! ## Marked addresses -/

theorem redacted_of_marks {scheme user place : String}
    (hscheme : ¬ "://".toList <:+: scheme.toList) (huser : ':' ∉ user.toList)
    (hplace : '@' ∉ place.toList) (secret : String) :
    redacted (scheme ++ "://" ++ user ++ ":" ++ secret ++ ("@" ++ place))
      = scheme ++ "://" ++ user ++ ":***" ++ ("@" ++ place) := by
  have hchars := redactedChars_of_marks hscheme huser hplace secret.toList
  have haddress : (scheme ++ "://" ++ user ++ ":" ++ secret ++ ("@" ++ place)).toList
      = scheme.toList ++ "://".toList
        ++ ((user.toList ++ ':' :: secret.toList) ++ '@' :: place.toList) := by
    simp
  rw [← String.toList_inj, redacted, haddress, hchars, String.toList_ofList]
  simp [mask]

/-- An address with all three marks, in pieces: none of the marks stands
where it would be found before. -/
structure Marked (address scheme user secret place : String) : Prop where
  pieces : address = scheme ++ "://" ++ user ++ ":" ++ secret ++ ("@" ++ place)
  scheme : ¬ "://".toList <:+: scheme.toList
  user : ':' ∉ user.toList
  place : '@' ∉ place.toList

namespace Marked

variable {address scheme user secret place : String}

theorem redacted_eq (h : Marked address scheme user secret place) :
    redacted address = scheme ++ "://" ++ user ++ ":***" ++ ("@" ++ place) := by
  rw [h.pieces, redacted_of_marks h.scheme h.user h.place]

/-- Redacted, it has its marks where it had them, around three asterisks. -/
theorem masked (h : Marked address scheme user secret place) :
    Marked (redacted address) scheme user "***" place := by
  refine ⟨?_, h.scheme, h.user, h.place⟩
  rw [h.redacted_eq, ← String.toList_inj]
  simp

theorem redacted_eq_self_iff (h : Marked address scheme user secret place) :
    redacted address = address ↔ secret = "***" := by
  rw [h.masked.pieces, h.pieces, String.append_left_inj, String.append_right_inj, eq_comm]

end Marked

/-- An address is redacted only if all three marks are found. -/
theorem redacted_cases (address : String) : redacted address = address
    ∨ ∃ scheme user secret place, Marked address scheme user secret place := by
  obtain ⟨-, hcut⟩ | ⟨scheme, rest, rfl, -, hcut⟩ :=
    Text.placeOf?_cases (show "://".toList ≠ [] by decide) address
  · left
    simp only [redacted, redactedChars, hcut, String.ofList_toList]
  obtain ⟨-, hcutLast⟩ | ⟨credentials, place, rfl, -, hcutLast⟩ := Text.lastPlaceOf?_cases '@' rest
  · left
    simp only [redacted, redactedChars, hcut, hcutLast, String.ofList_toList]
  obtain ⟨-, hcutColon⟩ | ⟨user, secret, rfl, -, hcutColon⟩ :=
    Text.placeOf?_cases (show ":".toList ≠ [] by decide) credentials
  · left
    have hcolonText : ":".toList = [':'] := rfl
    rw [hcolonText] at hcutColon
    simp only [redacted, redactedChars, hcut, hcutLast, hcutColon, String.ofList_toList]
  · right
    refine ⟨scheme, user, secret, place, ?_, fun hin => ?_, ?_, ?_⟩
    · rw [← String.toList_inj]
      simp
    · have hfront := ((Text.cut?_eq_some_iff (by decide)).mp hcut).2
      exact hfront (hin.trans (List.prefix_append ..).isInfix)
    · exact (Text.cut?_singleton_eq_some_iff.mp hcutColon).2
    · exact (Text.cutLast?_eq_some_iff.mp hcutLast).2

/-! ## Every password -/

/-- Connecting opens its scope with the redacted address before anything
else is written. -/
theorem openPool_scope (network : Network) (address : String) (maxConnections : Nat)
    (s : Postgres.Store) :
    (s.openPool network address maxConnections).2.1.head? = some (.opened
      ⟨"connect_pool", Postgres.Store.poolTarget, [("url", .text (redacted address))]⟩) := by
  unfold Postgres.Store.openPool
  dsimp only
  split
  · rfl
  · split <;> rfl

/-- **A redacted address does not depend on the password.** Take a scheme
without a `://`, a user without a colon and a tail that begins with an `@`
and may hold more of them. Whatever password stands in between, with any of
the marks in it, the redacted address consists of the scheme, the user,
three asterisks and the tail from its last `@` on. So two passwords give the
same text, and the scope under which a connection is made is the same too.

No slice of an address that the redaction takes is past its end or inside a
character, whatever the address. -/
theorem redacted_of_any_password :
    (∀ scheme user tail : String, ¬ "://".toList <:+: scheme.toList → ':' ∉ user.toList →
      tail.toList.head? = some '@' →
      ∃ earlier place : String, tail = earlier ++ ("@" ++ place) ∧ '@' ∉ place.toList
        ∧ (∀ password : String,
          redacted (scheme ++ "://" ++ user ++ ":" ++ password ++ tail)
            = scheme ++ "://" ++ user ++ ":***" ++ ("@" ++ place))
        ∧ ∀ password password' : String,
          redacted (scheme ++ "://" ++ user ++ ":" ++ password ++ tail)
            = redacted (scheme ++ "://" ++ user ++ ":" ++ password' ++ tail)
          ∧ ∀ (network : Network) (maxConnections : Nat) (s : Postgres.Store),
            (s.openPool network (scheme ++ "://" ++ user ++ ":" ++ password ++ tail)
                maxConnections).2.1.head?
              = (s.openPool network (scheme ++ "://" ++ user ++ ":" ++ password' ++ tail)
                maxConnections).2.1.head?)
    ∧ ∀ address : String, redactedBySlices? address = some (redacted address) := by
  refine ⟨fun scheme user tail hscheme huser htail => ?_, redactedBySlices?_eq⟩
  obtain ⟨pieces, hcut⟩ : ∃ pieces, Text.cutLast? '@' tail.toList = some pieces := by
    refine Option.ne_none_iff_exists'.mp fun hnone => ?_
    exact Text.cutLast?_eq_none_iff.mp hnone (List.mem_of_mem_head? htail)
  obtain ⟨hsplit, hplace⟩ := Text.cutLast?_eq_some_iff.mp hcut
  have htext : tail = String.ofList pieces.1 ++ ("@" ++ String.ofList pieces.2) := by
    rw [← String.toList_inj, hsplit]
    simp
  have hlast : '@' ∉ (String.ofList pieces.2).toList := by rwa [String.toList_ofList]
  have hshown : ∀ password : String,
      redacted (scheme ++ "://" ++ user ++ ":" ++ password ++ tail)
        = scheme ++ "://" ++ user ++ ":***" ++ ("@" ++ String.ofList pieces.2) := by
    intro password
    -- all of the tail in front of its last mark counts as password
    have h := redacted_of_marks hscheme huser hlast (password ++ String.ofList pieces.1)
    rw [htext, ← h]
    simp only [String.append_assoc]
  refine ⟨_, _, htext, hlast, hshown, fun password password' => ?_⟩
  have hsame := (hshown password).trans (hshown password').symm
  refine ⟨hsame, fun network maxConnections s => ?_⟩
  rw [openPool_scope, openPool_scope, hsame]

/-- A password with every mark in it, and a tail with a second one. -/
theorem redacted_of_any_password_marks :
    ¬ "://".toList <:+: "postgres:/".toList ∧ ':' ∉ "né@e".toList
    ∧ "@x@h:1/d".toList.head? = some '@'
    ∧ redacted "postgres:/://né@e:a://b@ü:c@x@h:1/d" = "postgres:/://né@e:***@h:1/d" := by
  have hscheme : ¬ "://".toList <:+: "postgres:/".toList := by decide
  have huser : ':' ∉ "né@e".toList := by decide
  have htail : "@x@h:1/d".toList.head? = some '@' := by decide
  refine ⟨hscheme, huser, htail, ?_⟩
  obtain ⟨earlier, place, hsplit, hplace, hshown⟩ :=
    redacted_of_any_password.1 "postgres:/" "né@e" "@x@h:1/d" hscheme huser htail
  have hlists : "@x".toList ++ '@' :: "h:1/d".toList = earlier.toList ++ '@' :: place.toList := by
    simpa using congrArg String.toList hsplit
  have hcuts := Text.eq_of_last_mark hlists (by decide) hplace
  obtain rfl : place = "h:1/d" := String.toList_inj.mp hcuts.2.symm
  exact hshown.1 "a://b@ü:c"

/-! ## Every address -/

/-- **Redacting is done once and touches nothing else.** An address that is
redacted already stays as it is. An address is changed exactly if it has a
`://`, an `@` behind the first of these and a `:` between that and the last
`@`, and anything but three asterisks between the first such `:` and the last
`@`. Then everything up to that `:` and everything from that `@` on is kept. -/
theorem redacted_settles :
    (∀ address : String, redacted (redacted address) = redacted address)
    ∧ ∀ address : String, redacted address ≠ address ↔
      ∃ scheme user secret place : String,
        address = scheme ++ "://" ++ user ++ ":" ++ secret ++ ("@" ++ place)
        ∧ ¬ "://".toList <:+: scheme.toList ∧ ':' ∉ user.toList ∧ '@' ∉ place.toList
        ∧ secret ≠ "***"
        ∧ redacted address = scheme ++ "://" ++ user ++ ":" ++ "***" ++ ("@" ++ place) := by
  refine ⟨fun address => ?_, fun address => ⟨fun hchanged => ?_, ?_⟩⟩
  · rcases redacted_cases address with hsame | ⟨scheme, user, secret, place, hmarked⟩
    · rw [hsame, hsame]
    · rw [hmarked.masked.redacted_eq_self_iff]
  · rcases redacted_cases address with hsame | ⟨scheme, user, secret, place, hmarked⟩
    · exact absurd hsame hchanged
    · exact ⟨scheme, user, secret, place, hmarked.pieces, hmarked.scheme, hmarked.user,
        hmarked.place, fun hmask => hchanged (hmarked.redacted_eq_self_iff.mpr hmask),
        hmarked.masked.pieces⟩
  · rintro ⟨scheme, user, secret, place, hpieces, hscheme, huser, hplace, hmask, -⟩ hsame
    have hmarked : Marked address scheme user secret place := ⟨hpieces, hscheme, huser, hplace⟩
    exact hmask (hmarked.redacted_eq_self_iff.mp hsame)

end FormLease.Address
