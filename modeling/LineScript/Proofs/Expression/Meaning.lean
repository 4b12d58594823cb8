import LineScript.Interpreter
import LineScript.Proofs.Expression.Forms

/-! The evaluator gives every written expression its meaning. The proof goes by the nesting
limit: each part of a text is shorter than the text, so the limit suffices for the parts
when it suffices for the whole. -/
namespace LineScript.Grammar

open Expression (Connective Relation Form Evaluator)
open Text (Tight)

/-- An evaluator that gives every short text of an expression its meaning. -/
def Agrees (catalog : Catalog) (size : Nat) (self : Evaluator) : Prop :=
  ∀ {expr : Expr} {text : Text}, expr.Written text → text.length < size →
    self text = expr.meaning catalog

namespace Agrees

variable {catalog : Catalog} {size : Nat} {self : Evaluator} (agrees : Agrees catalog size self)

include agrees

theorem addend {term : Term} {text : Text} (part : Part Term.Written size term text) :
    Expression.addend self text = term.meaning catalog := by
  rw [Expression.addend, part.written.solid, agrees (.one part.written) part.short, Expr.meaning]
  rfl

theorem operand {comparison : Comparison} {text : Text} (written : comparison.Written text)
    (short : text.length < size) :
    Expression.operand self text = comparison.meaning catalog := by
  rw [Expression.operand, written.solid, agrees (.one (.one written)) short, Expr.meaning,
    Term.meaning]
  rfl

theorem addends {terms : List Term} {texts : List Text}
    (parts : List.Forall₂ (Part Term.Written size) terms texts) :
    texts.mapM (Expression.addend self) = Term.meanings catalog terms := by
  induction parts with
  | nil => rw [List.mapM_nil, Term.meanings]
  | cons part _ ih => rw [List.mapM_cons, agrees.addend part, ih, Term.meanings]

theorem connects {others : List (Connective × Comparison)} {texts : List (Connective × Text)}
    (parts : List.Forall₂ (Joined size) others texts) (result : Bool) :
    texts.foldlM (Expression.connect self) result = Term.joined catalog result others := by
  induction parts generalizing result with
  | nil => rw [List.foldlM_nil, Term.joined]
  | @cons part read _ _ joined _ ih =>
    obtain ⟨connective, comparison⟩ := part
    obtain ⟨same, written, short⟩ := joined
    rw [List.foldlM_cons, Expression.connect, agrees.operand written short, Term.joined]
    simp only [bind_assoc, pure_bind, ih, ← same]

theorem parts {exprs : List Expr} {texts : List Text}
    (parts : List.Forall₂ (Part Expr.Written size) exprs texts) :
    texts.mapM self = Expr.meanings catalog exprs := by
  induction parts with
  | nil => rw [List.mapM_nil, Expr.meanings]
  | cons part _ ih => rw [List.mapM_cons, agrees part.written part.short, ih, Expr.meanings]

theorem enter {key : Key} {expr : Expr} {text : Text}
    (part : Part Expr.Keyed size (key, expr) text) (table : Table Value) :
    Expression.enter self table text =
      do return table.insert key.label (← expr.meaning catalog) := by
  obtain ⟨rest, found, written, short⟩ := part.written.exists_part
  rw [Expression.enter, found, ← agrees written (Nat.lt_trans short part.short)]
  rfl

theorem entries {entries : List (Key × Expr)} {texts : List Text}
    (parts : List.Forall₂ (Part Expr.Keyed size) entries texts) (table : Table Value) :
    texts.foldlM (Expression.enter self) table = Expr.entered catalog table entries := by
  induction parts generalizing table with
  | nil => rw [List.foldlM_nil, Expr.entered]
  | @cons entry _ _ _ part _ ih =>
    obtain ⟨key, expr⟩ := entry
    rw [List.foldlM_cons, agrees.enter part, Expr.entered]
    simp only [bind_assoc, pure_bind, ih]

theorem accesses {accesses : List Access} {accessors : List Expression.Accessor}
    (reads : List.Forall₂ (Access.ReadAs size) accesses accessors) (value : Value) :
    accessors.foldlM (Expression.access self) value = Access.walked catalog value accesses := by
  induction reads generalizing value with
  | nil => rw [List.foldlM_nil, Access.walked]
  | cons read _ ih =>
    rw [List.foldlM_cons, Access.walked]
    simp only [ih]
    cases read with
    | property name => rw [Expression.access, Access.applied]
    | index written short => rw [Expression.access, Access.applied, agrees written short]

theorem atom {atom : Atom} {text : Text} (written : atom.Written text)
    (short : text.length ≤ size) :
    (Form.ofFragment text).evaluate catalog self = atom.meaning catalog := by
  cases written with
  | string content => rw [ofFragment_string, Form.evaluate, Atom.meaning]
  | number numeral unsigned => rw [ofFragment_number numeral unsigned, Form.evaluate, Atom.meaning]
  | name name => rw [ofFragment_name, Form.evaluate, Atom.meaning]
  | call name listed =>
    obtain ⟨texts, found, _, parts⟩ := listed.fragments
    simp only [List.length_append, List.length_cons] at short
    have read := agrees.parts (parts.imp fun _ _ part => part.mono (by omega))
    rw [ofFragment_call name listed, Form.evaluate, found, Atom.meaning, ← read]
    rfl
  | array listed =>
    obtain ⟨texts, _, found, parts⟩ := listed.fragments
    simp only [List.length_append, List.length_cons] at short
    have read := agrees.parts (parts.imp fun _ _ part => part.mono (by omega))
    rw [ofFragment_array listed, Form.evaluate, found, Atom.meaning, ← read]
    rfl
  | object paired =>
    obtain ⟨texts, found, parts⟩ := paired.items
    simp only [List.length_append, List.length_cons] at short
    have read := agrees.entries (parts.imp fun _ _ part => part.mono (by omega)) []
    rw [ofFragment_object paired, Form.evaluate, found, Atom.meaning, ← read]
    rfl
  | access base first others =>
    obtain ⟨accessors, found, reads⟩ := ofFragment_access base first others
    simp only [List.length_append] at short reads
    have walk := agrees.accesses (reads.imp fun _ _ read => read.mono (by omega))
    rw [found, Form.evaluate, Atom.meaning]
    simp only [walk, Access.walked]

theorem comparison {comparison : Comparison} {text : Text} (written : comparison.Written text)
    (tight : Tight text) (short : text.length ≤ size) :
    (Form.ofFragment text).evaluate catalog self = comparison.meaning catalog := by
  cases written with
  | atom before atom after =>
    have bare := tight.trim_eq
    rw [atom.tight.trim_gaps before after] at bare
    rw [← bare] at short ⊢
    rw [agrees.atom atom short, Comparison.meaning]
  | related relation before left after right =>
    have solid : 0 < relation.symbol.length := by cases relation <;> simp [Relation.symbol]
    simp only [List.length_append] at short
    rw [ofFragment_comparison before left after right tight.trimStart_eq, Form.evaluate,
      agrees.operand (.atom before left after) (by simp only [List.length_append]; omega),
      agrees.operand right (by omega)]
    simp only [Comparison.meaning]

theorem term {term : Term} {text : Text} (written : term.Written text)
    (tight : Tight text) (short : text.length ≤ size) :
    (Form.ofFragment text).evaluate catalog self = term.meaning catalog := by
  cases written with
  | one comparison => rw [agrees.comparison comparison tight short, Term.meaning]
  | join connective first rest =>
    obtain ⟨parts, found, joined⟩ := ofFragment_logical first rest tight.trimStart_eq
    have solid : 0 < connective.word.length := by cases connective <;> simp [Connective.word]
    have connected := agrees.connects (joined.imp fun _ _ part => part.mono short)
    simp only [List.length_append] at short
    rw [found, Form.evaluate, agrees.operand first (by omega), Term.meaning]
    simp only [connected]

theorem expr {expr : Expr} {text : Text} (written : expr.Written text)
    (tight : Tight text) (short : text.length ≤ size) :
    (Form.ofFragment text).evaluate catalog self = expr.meaning catalog := by
  cases written with
  | one term => rw [agrees.term term tight short, Expr.meaning]
  | plus first rest =>
    obtain ⟨texts, found, parts⟩ := ofFragment_sum first rest tight.trimStart_eq
    rw [found, Form.evaluate, agrees.addends (parts.imp fun _ _ part => part.mono short),
      Term.meanings, Expr.meaning]
    simp only [bind_assoc, pure_bind]

end Agrees

theorem agrees_evaluate (catalog : Catalog) (limit : Nat) :
    Agrees catalog limit (Expression.evaluate catalog limit) := by
  induction limit with
  | zero => exact fun _ short => absurd short (Nat.not_lt_zero _)
  | succ limit ih =>
    intro expr text written short
    have le := Text.length_trim_le text
    rw [Expression.evaluate]
    exact ih.expr written.trim (Text.tight_trim written.solid) (by omega)

/-- In every world an interpreter evaluates a written expression as the expression says:
it gives the same value or fault, and leaves the same bindings, heap and console. -/
theorem evaluate_written {σ : Type} (interpreter : Interpreter σ) (world : World σ) {expr : Expr}
    {text : Text} (written : expr.Written text) (short : text.length < interpreter.limit) :
    interpreter.evaluate text world =
      (expr.meaning interpreter.catalog).run interpreter.console world := by
  rw [Interpreter.evaluate, agrees_evaluate interpreter.catalog interpreter.limit written short]

theorem evaluate_written_precedence :
    (⟨Transcript.console, .standard, 256⟩ : Interpreter Transcript).evaluate
        ['1', ' ', '+', ' ', 'x', ' ', '<', ' ', '2', ' ', 'r', 'a', ' ', 'y'] ⟨{}, {}, {}⟩ =
      (Expr.meaning .standard
        (.sum (.chain (.atom (.number ⟨['1'], by decide⟩ (by decide))) [])
          [.chain
            (.related (.name ⟨⟨['x'], by decide⟩, by rintro (_ | _) <;> decide⟩) .less
              (.atom (.number ⟨['2'], by decide⟩ (by decide))))
            [(.both, .atom (.name ⟨⟨['y'], by decide⟩, by rintro (_ | _) <;> decide⟩))]])).run
        Transcript.console ⟨{}, {}, {}⟩ :=
  evaluate_written ⟨Transcript.console, .standard, 256⟩ ⟨{}, {}, {}⟩
    (.plus (.one (@Comparison.Written.atom _ [] _ [' '] rfl (.number _ _) rfl))
      (.one (.join .both
        (@Comparison.Written.related _ _ [' '] _ [' '] _ .less rfl (.name _) rfl
          (@Comparison.Written.atom _ [' '] _ [] rfl (.number _ _) rfl))
        (.one (@Comparison.Written.atom _ [] _ [] rfl (.name _) rfl)))))
    (by decide)

end LineScript.Grammar
