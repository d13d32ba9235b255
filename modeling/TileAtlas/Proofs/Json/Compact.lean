import TileAtlas.Proofs.Json.Scan

/-!
Contract: a value comes back from the compact document that is written of it.

Owns:
- `JsonValue.IsWellFormed`, the values whose numerals are numerals;
- `JsonValue.tokens`, the tokens of a value;
- `JsonValue.scan_compact`, from the document to the tokens;
- `JsonValue.ofTokens?_tokens`, from the tokens to the value;
- `JsonValue.ofBytes?_compact`, the two together.
-/

namespace TileAtlas

namespace JsonValue

open Json

/-- Every numeral of a value is one. -/
inductive IsWellFormed : JsonValue → Prop where
  | null : IsWellFormed .null
  | bool (value : Bool) : IsWellFormed (.bool value)
  | number {numeral : Numeral} (wellFormed : numeral.IsWellFormed) : IsWellFormed (.number numeral)
  | text (content : Option String) : IsWellFormed (.text content)
  | array {items : List JsonValue} (each : ∀ item ∈ items, IsWellFormed item) :
      IsWellFormed (.array items)
  | object {members : List (Option String × JsonValue)}
      (each : ∀ member ∈ members, IsWellFormed member.2) : IsWellFormed (.object members)

mutual

def tokens : JsonValue → List Token
  | .null => [.null]
  | .bool value => [.bool value]
  | .number numeral => [.numeral numeral]
  | .text content => [.text content]
  | .array items => .openBracket :: (itemTokens [] items ++ [.closeBracket])
  | .object members => .openBrace :: (memberTokens [] members ++ [.closeBrace])

def itemTokens (comma : List Token) : List JsonValue → List Token
  | [] => []
  | item :: rest => comma ++ item.tokens ++ itemTokens [.comma] rest

def memberTokens (comma : List Token) : List (Option String × JsonValue) → List Token
  | [] => []
  | (name, value) :: rest =>
      comma ++ [.text name, .colon] ++ value.tokens ++ memberTokens [.comma] rest

end

/-! ## From the document to the tokens -/

open Scan

theorem endsWith_appendItems {items : List JsonValue}
    (each : ∀ item ∈ items, ∀ out read, EndsBetween out read →
      EndsWith (appendCompact out item) (read ++ item.tokens))
    (out comma : String) (read separator : List Token) (done : EndsWith out read)
    (next : EndsBetween (out ++ comma) (read ++ separator)) :
    EndsWith (appendItems out comma items) (read ++ itemTokens separator items) := by
  -- an item may follow the separator: nothing before the first one, then a comma
  induction items generalizing out comma read separator with
  | nil => simpa [appendItems, itemTokens] using done
  | cons item rest inductionHypothesis =>
      rw [List.forall_mem_cons] at each
      have written := each.1 _ _ next
      have appended := inductionHypothesis each.2 _ _ _ _ written
        (written.mark "," rfl rfl)
      simpa [appendItems, itemTokens] using appended

theorem endsWith_appendMembers {members : List (Option String × JsonValue)}
    (each : ∀ member ∈ members, ∀ out read, EndsBetween out read →
      EndsWith (appendCompact out member.2) (read ++ member.2.tokens))
    (out comma : String) (read separator : List Token) (done : EndsWith out read)
    (next : EndsBetween (out ++ comma) (read ++ separator)) :
    EndsWith (appendMembers out comma members) (read ++ memberTokens separator members) := by
  induction members generalizing out comma read separator with
  | nil => simpa [appendMembers, memberTokens] using done
  | cons member rest inductionHypothesis =>
      obtain ⟨name, value⟩ := member
      rw [List.forall_mem_cons] at each
      have named := (next.quotedText name).endsWith.mark ":" rfl rfl
      have written := each.1 _ _ named
      have appended := inductionHypothesis each.2 _ _ _ _ written
        (written.mark "," rfl rfl)
      simpa [appendMembers, memberTokens] using appended

theorem endsWith_appendCompact {value : JsonValue} (wellFormed : value.IsWellFormed) :
    ∀ out read, EndsBetween out read →
      EndsWith (appendCompact out value) (read ++ value.tokens) := by
  induction wellFormed with
  | null => exact fun out read reached => reached.null
  | bool value => exact fun out read reached => reached.bool value
  | number wellFormed => exact fun out read reached => reached.numeral wellFormed
  | text content => exact fun out read reached => (reached.quotedText content).endsWith
  | array each inductionHypothesis =>
      intro out read reached
      have opened := reached.endsWith.mark "[" rfl rfl
      have written := endsWith_appendItems inductionHypothesis _ "" _ [] opened.endsWith
        (by simpa using opened)
      have closed := written.mark "]" rfl rfl
      simpa [appendCompact, tokens] using closed.endsWith
  | object each inductionHypothesis =>
      intro out read reached
      have opened := reached.endsWith.mark "\x7b" rfl rfl
      have written := endsWith_appendMembers inductionHypothesis _ "" _ [] opened.endsWith
        (by simpa using opened)
      have closed := written.mark "\x7d" rfl rfl
      simpa [appendCompact, tokens] using closed.endsWith

theorem scan_compact {value : JsonValue} (wellFormed : value.IsWellFormed) :
    Token.scan (octets value.compact) = some value.tokens := by
  obtain ⟨scan, reached, settles⟩ := endsWith_appendCompact wellFormed "" [] endsBetween_empty
  simp [Token.scan, compact, reached, settles]

/-! ## From the tokens to the value -/

/-- Tokens lead from one state of reading to another. -/
def Leads (tokens : List Token) (start finish : Build) : Prop :=
  tokens.foldlM Build.step start = some finish

theorem Leads.append {first second : List Token} {start middle finish : Build}
    (before : Leads first start middle) (after : Leads second middle finish) :
    Leads (first ++ second) start finish := by
  simpa [Leads, List.foldlM_append, show first.foldlM Build.step start = some middle from before]
    using after

theorem Leads.cons {token : Token} {rest : List Token} {start middle finish : Build}
    (before : start.step token = some middle) (after : Leads rest middle finish) :
    Leads (token :: rest) start finish := by
  simpa [Leads, before] using after

theorem leads_nil (build : Build) : Leads [] build build := rfl

/-- No value begins with a closing bracket. -/
theorem leads_firstItem {value : JsonValue} {frames : List Frame} {finish : Build}
    (read : Leads value.tokens ⟨.value, .array [] :: frames⟩ finish) :
    Leads value.tokens ⟨.firstItem, frames⟩ finish := by
  cases value <;> exact read

theorem leads_items {items : List JsonValue}
    (each : ∀ item ∈ items, ∀ frames, Leads item.tokens ⟨.value, frames⟩ ⟨.after item, frames⟩)
    (item : JsonValue) (before : List JsonValue) (frames : List Frame) :
    Leads (itemTokens [.comma] items ++ [.closeBracket]) ⟨.after item, .array before :: frames⟩
      ⟨.after (.array ((item :: before).reverse ++ items)), frames⟩ := by
  induction items generalizing item before with
  | nil =>
      rw [List.append_nil]
      exact .cons rfl (leads_nil _)
  | cons next items inductionHypothesis =>
      rw [List.forall_mem_cons] at each
      have rest := inductionHypothesis each.2 next (item :: before)
      rw [List.reverse_cons, List.append_assoc] at rest
      rw [itemTokens, List.append_assoc, List.append_assoc]
      exact .cons rfl ((each.1 _).append rest)

theorem leads_members {members : List (Option String × JsonValue)}
    (each : ∀ member ∈ members, ∀ frames,
      Leads member.2.tokens ⟨.value, frames⟩ ⟨.after member.2, frames⟩)
    (name : Option String) (value : JsonValue) (before : List (Option String × JsonValue))
    (frames : List Frame) :
    Leads (memberTokens [.comma] members ++ [.closeBrace])
      ⟨.after value, .object before name :: frames⟩
      ⟨.after (.object (((name, value) :: before).reverse ++ members)), frames⟩ := by
  induction members generalizing name value before with
  | nil =>
      rw [List.append_nil]
      exact .cons rfl (leads_nil _)
  | cons next members inductionHypothesis =>
      obtain ⟨nextName, nextValue⟩ := next
      rw [List.forall_mem_cons] at each
      have rest := inductionHypothesis each.2 nextName nextValue ((name, value) :: before)
      rw [List.reverse_cons, List.append_assoc] at rest
      rw [memberTokens, List.append_assoc, List.append_assoc, List.append_assoc]
      exact .cons rfl (.cons rfl (.cons rfl ((each.1 _).append rest)))

/-- The tokens of a value lead to the value, whatever is open around it. -/
theorem leads_tokens {value : JsonValue} (wellFormed : value.IsWellFormed) :
    ∀ frames, Leads value.tokens ⟨.value, frames⟩ ⟨.after value, frames⟩ := by
  induction wellFormed with
  | null => exact fun frames => rfl
  | bool value => exact fun frames => rfl
  | number wellFormed => exact fun frames => rfl
  | text content => exact fun frames => rfl
  | @array items each inductionHypothesis =>
      intro frames
      cases items with
      | nil => rfl
      | cons item items =>
          rw [List.forall_mem_cons] at inductionHypothesis
          have first := leads_firstItem (inductionHypothesis.1 (.array [] :: frames))
          have rest := leads_items inductionHypothesis.2 item [] frames
          rw [tokens, itemTokens, List.nil_append, List.append_assoc]
          exact .cons rfl (first.append rest)
  | @object members each inductionHypothesis =>
      intro frames
      cases members with
      | nil => rfl
      | cons member members =>
          obtain ⟨name, value⟩ := member
          rw [List.forall_mem_cons] at inductionHypothesis
          have first := inductionHypothesis.1 (.object [] name :: frames)
          have rest := leads_members inductionHypothesis.2 name value [] frames
          rw [tokens, memberTokens, List.nil_append, List.append_assoc, List.append_assoc]
          exact .cons rfl (.cons rfl (.cons rfl (first.append rest)))

theorem ofTokens?_tokens {value : JsonValue} (wellFormed : value.IsWellFormed) :
    ofTokens? value.tokens = some value := by
  have read : value.tokens.foldlM Build.step .start = some ⟨.after value, []⟩ :=
    leads_tokens wellFormed []
  simp [ofTokens?, read, Build.finish]

/-- A value is read from the document that is written of it. -/
theorem ofBytes?_compact {value : JsonValue} (wellFormed : value.IsWellFormed) :
    ofBytes? (octets value.compact) = some value := by
  simp [ofBytes?, scan_compact wellFormed, ofTokens?_tokens wellFormed]

end JsonValue

end TileAtlas
