import Mathlib.Data.List.TakeWhile
import ShopQuery.Connection.Url
import ShopQuery.Proofs.SameOutcome

/-!
# Passwords in urls

The password of a url stands between the first colon after the slashes and the last `@` of the
authority. Nothing else is read from there: texts that differ in the password alone are urls that
differ in the password alone, or fail alike (`readChars_credentials`).

## How the proof goes

A url is read from left to right, and the reader is followed along that way with the password as it
is in either text. The scheme ends at the first colon (`readScheme_append`), before the password
begins. The slashes behind it are dropped; in front of a user there are exactly two
(`dropWhile_isSlash_append`). Then the authority is searched from its end for an `@`
(`splitUserInfo_append`), and the part in front of it from its begin for a colon
(`userAndPassword_append`). What is left behind the `@` is one text in both runs, so whatever is
read from it is the same, errors included (`SameOutcome.after`).

## The side conditions

`Surrounds` asks that no colon stands in the user and no `@` behind the password, up to the end of
the authority: these would move the ends of the password. The characters that end an authority
depend on the class of the scheme, as a backslash is a slash for some of them; so `Surrounds` and
`Fits` have the class as a parameter, and it is that of the characters in front of the first colon
(`classOf`). Files are left out, as their urls are read another way.
-/

namespace ShopQuery.Url

/-! ## 1. Texts with a password -/

/-- The characters of a url with a user and a password. -/
def credentials (lead user password after : List Char) : List Char :=
  lead ++ ':' :: '/' :: '/' :: (user ++ ':' :: (password ++ '@' :: after))

def SchemeClass.endsAuthority (k : SchemeClass) (c : Char) : Bool :=
  k.isSlash c || c = '?' || c = '#'

/-- The class of the scheme in front of a colon. -/
def classOf (lead : List Char) : SchemeClass := .of (String.ofList (lead.map Char.toLower))

/-- What stands before and after the password in the authority of a url. The first colon and the
last `@` are those next to the password. -/
structure Surrounds (k : SchemeClass) (user after : List Char) : Prop where
  userInside : ∀ c ∈ user, k.endsAuthority c = false
  firstColon : ':' ∉ user
  lastAt : '@' ∉ after.takeWhile fun c => !k.endsAuthority c

/-- A password that is not empty and does not end the authority. -/
structure Fits (k : SchemeClass) (password : List Char) : Prop where
  nonempty : password ≠ []
  inside : ∀ c ∈ password, k.endsAuthority c = false

/-! ## 2. Users and passwords -/

/-- An `@` is part of the authority, in every class. -/
theorem endsAuthority_at (k : SchemeClass) : k.endsAuthority '@' = false := by
  cases k <;> decide

/-- The last `@` of the authority divides it. -/
theorem splitUserInfo_append {k : SchemeClass} {info after : List Char}
    (hinfo : ∀ c ∈ info, k.endsAuthority c = false)
    (hafter : '@' ∉ after.takeWhile fun c => !k.endsAuthority c) :
    splitUserInfo k (info ++ '@' :: after) = some (info, after) := by
  have hauthority : (info ++ '@' :: after).takeWhile (fun c => !k.endsAuthority c) =
      info ++ '@' :: after.takeWhile fun c => !k.endsAuthority c := by
    rw [List.takeWhile_append_of_pos fun c hc => by rw [hinfo c hc]; rfl]
    simp [endsAuthority_at]
  have hbehind : ∀ c ∈ (after.takeWhile fun c => !k.endsAuthority c).reverse,
      (c != '@') = true := by
    intro c hc
    refine bne_iff_ne.mpr ?_
    rintro rfl
    exact hafter (List.mem_reverse.mp hc)
  -- The reader looks for the last at sign, so from behind: nothing after the sign has another.
  have hlast : (info ++ '@' :: after.takeWhile fun c => !k.endsAuthority c).reverse.dropWhile
      (· != '@') = '@' :: info.reverse := by
    rw [List.reverse_append, List.reverse_cons, List.append_assoc,
      List.dropWhile_append_of_pos hbehind]
    rfl
  unfold splitUserInfo
  rw [show (info ++ '@' :: after).takeWhile (fun c => !(k.isSlash c || c = '?' || c = '#')) = _ from
    hauthority]
  simp only [hlast]
  simp

/-- The first colon divides the user from the password. -/
theorem userAndPassword_append {user password : List Char} (huser : ':' ∉ user)
    (hpassword : password ≠ []) :
    userAndPassword (user ++ ':' :: password) = (user, some password) := by
  have hne : ∀ c ∈ user, (c != ':') = true := fun c hc => bne_iff_ne.mpr fun h => huser (h ▸ hc)
  obtain ⟨c, rest, rfl⟩ := List.exists_cons_of_ne_nil hpassword
  simp [userAndPassword, List.takeWhile_append_of_pos hne, List.dropWhile_append_of_pos hne]

/-! ## 3. Urls -/

/-- Two urls that differ in the password alone. -/
structure Twin (password other : List Char) (a b : Url) : Prop where
  first : a.password = some password
  second : b = { a with password := some other }

section

variable {k : SchemeClass} {user after password other : List Char} (h : Surrounds k user after)
  (hpassword : Fits k password) (hother : Fits k other)
include h hpassword

/-- What stands before the `@` are the user and the password. -/
theorem splitUserInfo_credentials :
    splitUserInfo k (user ++ ':' :: (password ++ '@' :: after)) =
      some (user ++ ':' :: password, after) := by
  have hinside : ∀ c ∈ user ++ ':' :: password, k.endsAuthority c = false := by
    intro c hc
    rcases List.mem_append.mp hc with huser | hc
    · exact h.userInside c huser
    · rcases List.mem_cons.mp hc with rfl | hc
      · cases k <;> decide
      · exact hpassword.inside c hc
  have hsplit := splitUserInfo_append hinside h.lastAt
  rwa [List.append_assoc] at hsplit

include hother

/-- Everything but the password is read behind the `@`, from the same text. -/
theorem withAuthority_credentials (scheme : String) :
    SameOutcome (Twin password other)
      (withAuthority k scheme (user ++ ':' :: (password ++ '@' :: after)))
      (withAuthority k scheme (user ++ ':' :: (other ++ '@' :: after))) := by
  unfold withAuthority
  rw [splitUserInfo_credentials h hpassword, splitUserInfo_credentials h hother]
  simp only [Option.getD_some, userAndPassword_append h.firstColon hpassword.nonempty,
    userAndPassword_append h.firstColon hother.nonempty]
  have hinfo : ∀ raw, (user ++ ':' :: raw).isEmpty = false := by simp
  simp only [hinfo, Option.isSome_some, Bool.and_false, Bool.false_and]
  refine .after _ ?_
  intro host
  refine .guard _ ?_
  split
  · refine .after _ ?_
    rintro ⟨port, rest⟩
    exact .guard _ (.ok ⟨rfl, rfl⟩)
  · exact .guard _ (.ok ⟨rfl, rfl⟩)

end

/-! ## 4. Schemes -/

/-- What may stand in a scheme ends at the colon at the latest. -/
theorem dropWhile_isSchemeChar_append (lead rest : List Char) :
    (lead ++ ':' :: rest).dropWhile isSchemeChar = lead.dropWhile isSchemeChar ++ ':' :: rest := by
  have hcolon : (':' :: rest).dropWhile isSchemeChar = ':' :: rest := rfl
  rw [List.dropWhile_append, hcolon]
  split
  · rename_i hempty
    rw [List.isEmpty_iff.mp hempty, List.nil_append]
  · rfl

/-- A scheme is read up to the first colon, if what stands there is one. -/
theorem readScheme_append {lead rest : List Char} (hlead : ':' ∉ lead) :
    readScheme (lead ++ ':' :: rest) =
      if lead.head?.any Char.isAlpha && lead.all isSchemeChar then
        some (lead.map Char.toLower, rest)
      else none := by
  obtain _ | ⟨c, cs⟩ := lead
  · rfl
  have hdrop := dropWhile_isSchemeChar_append (c :: cs) rest
  rw [List.cons_append] at hdrop ⊢
  unfold readScheme
  simp only [hdrop, List.head?_cons, Option.any_some]
  by_cases halpha : c.isAlpha = true
  -- The scan stops at the colon, or at a character before it that no scheme has.
  · cases hleft : (c :: cs).dropWhile isSchemeChar with
    | nil =>
      have hall := List.dropWhile_eq_nil_iff.mp hleft
      have htake : (c :: (cs ++ ':' :: rest)).takeWhile isSchemeChar = c :: cs := by
        rw [← List.cons_append, List.takeWhile_append_of_pos hall]
        exact List.append_nil _
      simp [halpha, htake, List.all_eq_true.mpr hall]
    | cons d ds =>
      have hd : d ∈ c :: cs := List.dropWhile_subset _ (hleft ▸ List.mem_cons_self)
      have hne : d ≠ ':' := by
        rintro rfl
        exact hlead hd
      have hnot : (c :: cs).all isSchemeChar = false := by
        refine Bool.eq_false_iff.mpr fun hall => ?_
        rw [List.dropWhile_eq_nil_iff.mpr (List.all_eq_true.mp hall)] at hleft
        cases hleft
      simp [halpha, hnot, hne]
  · simp [halpha]

/-- The slashes in front of an authority are the two of the scheme. -/
theorem dropWhile_isSlash_append {user after : List Char} (h : Surrounds .web user after)
    (rest : List Char) :
    ('/' :: '/' :: (user ++ ':' :: rest)).dropWhile (SchemeClass.web.isSlash ·) =
      user ++ ':' :: rest := by
  have hslash : SchemeClass.web.isSlash '/' = true := by decide
  rw [List.dropWhile_cons_of_pos hslash, List.dropWhile_cons_of_pos hslash]
  cases user with
  | nil => rfl
  | cons c cs =>
    have hinside := h.userInside c List.mem_cons_self
    simp only [SchemeClass.endsAuthority, Bool.or_eq_false_iff] at hinside
    rw [List.cons_append, List.dropWhile_cons_of_neg (by simp [hinside.1.1])]

/-- Texts that differ in the password alone are urls that differ in the password alone, or no urls
for the same reason. -/
theorem readChars_credentials {text text' lead user after password other : List Char}
    (hlead : ':' ∉ lead) (hfile : classOf lead ≠ .file) (h : Surrounds (classOf lead) user after)
    (hpassword : Fits (classOf lead) password) (hother : Fits (classOf lead) other)
    (htext : relevant text = credentials lead user password after)
    (htext' : relevant text' = credentials lead user other after) :
    SameOutcome (Twin password other) (readChars text) (readChars text') := by
  unfold readChars
  rw [htext, htext', credentials, credentials, readScheme_append hlead, readScheme_append hlead]
  by_cases hname : (lead.head?.any Char.isAlpha && lead.all isSchemeChar) = true
  · rw [if_pos hname, if_pos hname]
    dsimp only
    unfold classOf at hfile h hpassword hother
    generalize SchemeClass.of (String.ofList (lead.map Char.toLower)) = k
      at hfile h hpassword hother
    -- Only schemes of the web pass over more slashes than their two; files have no user.
    cases k with
    | other => exact withAuthority_credentials h hpassword hother _
    | web =>
      rw [dropWhile_isSlash_append h, dropWhile_isSlash_append h]
      exact withAuthority_credentials h hpassword hother _
    | file => exact absurd rfl hfile
  · rw [if_neg hname, if_neg hname]
    exact .error _

end ShopQuery.Url
