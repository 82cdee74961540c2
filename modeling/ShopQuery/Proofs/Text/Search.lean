import ShopQuery.Text.Search

/-!
# What a text mentions

`occursIn` finds infixes (`occursIn_iff_infix`). An infix without a certain character lies on one
side of it, so what a text mentions that quotes a name, it mentions in front of the name, behind it
or by the name (`mentions_quoting`).

## How it is used

Messages of a server are told apart by the words in them, and they quote names that users and
databases have. So a word that is looked for may come from the message or from a name in it. A word
without a quote cannot come from both at once: it would have to reach across the quote between them.
That is the argument here, for any character that the word does not have; what it is used for is the
quote on either side of a name.

Words are looked for in lower case. The quote has no other case, so it stays where it is.
-/

namespace ShopQuery

/-! ## 1. Infixes -/

/-- The search finds what is an infix. -/
theorem occursIn_iff_infix {needle cs : List Char} :
    occursIn needle cs = true ↔ needle <:+: cs := by
  induction cs with
  | nil => simp [occursIn]
  | cons c rest ih =>
    rw [occursIn, Bool.or_eq_true, List.isPrefixOf_iff_prefix, ih, List.infix_cons_iff]

/-- An infix without a character does not reach across it. -/
theorem infix_append_cons_iff {α : Type} {needle before after : List α} {c : α}
    (hc : c ∉ needle) :
    needle <:+: before ++ c :: after ↔ needle <:+: before ∨ needle <:+: after := by
  have hstarts : ∀ part : List α, c ∉ part → part <+: c :: after → part = [] := by
    intro part hpart hstart
    rcases List.prefix_cons_iff.mp hstart with hnil | ⟨rest, rfl, _⟩
    · exact hnil
    · exact absurd List.mem_cons_self hpart
  constructor
  · intro h
    rcases List.infix_append_iff.mp h with hbefore | hafter | ⟨left, right, rfl, hleft, hright⟩
    · exact .inl hbefore
    · rcases List.infix_cons_iff.mp hafter with hstart | hafter
      · rw [hstarts needle hc hstart]
        exact .inl List.nil_infix
      · exact .inr hafter
    · rw [hstarts right (fun hmem => hc (List.mem_append_right left hmem)) hright, List.append_nil]
      exact .inl hleft.isInfix
  · rintro (hbefore | hafter)
    · exact hbefore.trans (List.prefix_append before _).isInfix
    · exact hafter.trans (((List.suffix_cons c after).trans (List.suffix_append before _)).isInfix)

/-- The search looks on either side of a character that is not looked for. -/
theorem occursIn_append_cons {needle before after : List Char} {c : Char} (hc : c ∉ needle) :
    occursIn needle (before ++ c :: after) = (occursIn needle before || occursIn needle after) := by
  rw [Bool.eq_iff_iff, Bool.or_eq_true, occursIn_iff_infix, occursIn_iff_infix, occursIn_iff_infix]
  exact infix_append_cons_iff hc

/-! ## 2. Quoted names -/

/-- A text that quotes a name mentions what its parts and the name mention. -/
theorem mentions_quoting (before name after : String) {needle : String}
    (hquote : '"' ∉ needle.toList) :
    mentions (before ++ "\"" ++ name ++ "\"" ++ after) needle =
      (mentions before needle || mentions name needle || mentions after needle) := by
  have hlower : (before ++ "\"" ++ name ++ "\"" ++ after).toList.map Char.toLower =
      before.toList.map Char.toLower ++
        '"' :: (name.toList.map Char.toLower ++ '"' :: after.toList.map Char.toLower) := by
    simp [show '"'.toLower = '"' by decide]
  rw [mentions, hlower, occursIn_append_cons hquote, occursIn_append_cons hquote, Bool.or_assoc]
  rfl

end ShopQuery
