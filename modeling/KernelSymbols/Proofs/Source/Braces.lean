import KernelSymbols.Proofs.Source.Scanner

set_option autoImplicit false

namespace KernelSymbols.CSource

def openingBrace : Token := .mark '\x7b'

def closingBrace : Token := .mark '\x7d'

-- Where a list of tokens has been read up to: how many braces are open, what stands in the
-- outermost of them so far, and what stood in those that were closed.
structure Nesting where
  depth : Nat := 0
  content : List Token := []
  groups : List (List Token) := []

namespace Nesting

def hold (nesting : Nesting) (token : Token) : Nesting :=
  if nesting.depth = 0 then nesting
  else { nesting with content := nesting.content ++ [token] }

def next (nesting : Nesting) (token : Token) : Option Nesting :=
  if token = openingBrace then some { nesting.hold token with depth := nesting.depth + 1 }
  else if token = closingBrace then
    match nesting.depth with
    | 0 => none
    | 1 => some { groups := nesting.groups ++ [nesting.content] }
    | depth + 2 => some { nesting.hold token with depth := depth + 1 }
  else some (nesting.hold token)

theorem next_deeper {nesting after : Nesting} {token : Token}
    (stepped : nesting.next token = some after) (depth : Nat) (content : List Token)
    (groups : List (List Token)) :
    next ⟨depth + 1 + nesting.depth, content, groups⟩ token =
      some ⟨depth + 1 + after.depth, content ++ [token], groups⟩ := by
  have held : hold ⟨depth + 1 + nesting.depth, content, groups⟩ token =
      ⟨depth + 1 + nesting.depth, content ++ [token], groups⟩ := by
    simp [hold]
  unfold next at stepped ⊢
  rw [held]
  by_cases opens : token = openingBrace
  · rw [if_pos opens] at stepped ⊢
    obtain rfl := Option.some.inj stepped
    rfl
  · rw [if_neg opens] at stepped ⊢
    by_cases closes : token = closingBrace
    -- Whichever brace it closes inside, at least the one around all of it stays open.
    · rw [if_pos closes] at stepped ⊢
      rcases nesting with ⟨(_ | _ | inner), inside, earlier⟩
      · cases stepped
      · obtain rfl := Option.some.inj stepped
        rfl
      · obtain rfl := Option.some.inj stepped
        rfl
    · rw [if_neg closes] at stepped ⊢
      obtain rfl := Option.some.inj stepped
      rw [hold]
      split <;> rfl

theorem foldlM_next_deeper {tokens : List Token} {nesting after : Nesting}
    (run : tokens.foldlM next nesting = some after) (depth : Nat) (content : List Token)
    (groups : List (List Token)) :
    tokens.foldlM next ⟨depth + 1 + nesting.depth, content, groups⟩ =
      some ⟨depth + 1 + after.depth, content ++ tokens, groups⟩ := by
  induction tokens generalizing nesting content with
  | nil =>
      obtain rfl := Option.some.inj run
      simp
  | cons token rest ih =>
      rw [List.foldlM_cons] at run ⊢
      obtain ⟨middle, stepped, remaining⟩ := Option.bind_eq_some_iff.mp run
      rw [next_deeper stepped]
      have later := ih remaining (content ++ [token])
      rw [List.append_assoc] at later
      exact later

end Nesting

def groups? (tokens : List Token) : Option (List (List Token)) :=
  match tokens.foldlM Nesting.next {} with
  | some ⟨0, _, groups⟩ => some groups
  | _ => none

def Braced (tokens : List Token) (groups : List (List Token)) : Prop :=
  ∀ before, tokens.foldlM Nesting.next { groups := before } = some { groups := before ++ groups }

namespace Braced

theorem groups?_eq {tokens : List Token} {groups : List (List Token)}
    (braced : Braced tokens groups) : groups? tokens = some groups := by
  rw [groups?, braced []]
  rfl

theorem nil : Braced [] [] := by
  intro before
  simp

theorem append {left right : List Token} {first second : List (List Token)}
    (opening : Braced left first) (closing : Braced right second) :
    Braced (left ++ right) (first ++ second) := by
  intro before
  rw [List.foldlM_append, opening before, ← List.append_assoc]
  exact closing (before ++ first)

theorem of_no_brace {tokens : List Token}
    (plain : ∀ token ∈ tokens, token ≠ openingBrace ∧ token ≠ closingBrace) :
    Braced tokens [] := by
  intro before
  induction tokens with
  | nil => simp
  | cons token rest ih =>
      obtain ⟨⟨opens, closes⟩, others⟩ := List.forall_mem_cons.mp plain
      have stepped : Nesting.next { groups := before } token = some { groups := before } := by
        simp [Nesting.next, opens, closes, Nesting.hold]
      rw [List.foldlM_cons, stepped]
      exact ih others

theorem enclosed {tokens : List Token} {groups : List (List Token)}
    (braced : Braced tokens groups) :
    Braced (openingBrace :: tokens ++ [closingBrace]) [tokens] := by
  intro before
  have opened : Nesting.next { groups := before } openingBrace = some ⟨1, [], before⟩ := rfl
  have inside : tokens.foldlM Nesting.next ⟨1, [], before⟩ = some ⟨1, tokens, before⟩ :=
    Nesting.foldlM_next_deeper (braced []) 0 [] before
  rw [List.cons_append, List.foldlM_cons, opened, Option.bind_eq_bind, Option.bind_some,
    List.foldlM_append, inside]
  rfl

theorem flatMap {α : Type} {parts : List α} {tokens : α → List Token}
    {group : α → List Token} (each : ∀ part ∈ parts, Braced (tokens part) [group part]) :
    Braced (parts.flatMap tokens) (parts.map group) := by
  induction parts with
  | nil => exact nil
  | cons part rest ih =>
      obtain ⟨first, others⟩ := List.forall_mem_cons.mp each
      exact first.append (ih others)

end Braced

end KernelSymbols.CSource
