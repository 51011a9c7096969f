import Carryover.Value.Text

/-!
# The texts of hints

A class is shown by its qualified name, a composed form with its parts between brackets, and an
object that is no type by its text among other values.

| hint | text |
| --- | --- |
| list of whole numbers | `typing.List[int]` or `list[int]` |
| union of a type and nothing | `typing.Optional[int]` |
| union | `typing.Union[int, str]` |
| annotated | `typing.Annotated[int, 'doc']` |
-/

namespace Carryover

namespace Note

/-- A note as it is shown in an annotated type. -/
def render : Note → String
  | .directive d => d.render
  | .doc text => Text.quoted text
  | .alias name =>
    "FieldInfo(annotation=NoneType, required=True, alias=" ++ Text.quoted name ++
      ", alias_priority=2)"
  | .readAlias name =>
    "FieldInfo(annotation=NoneType, required=True, alias_priority=2, validation_alias=" ++
      Text.quoted name ++ ")"
  | .writeAlias name =>
    "FieldInfo(annotation=NoneType, required=True, alias_priority=2, serialization_alias=" ++
      Text.quoted name ++ ")"

end Note

namespace Hint

/-- The name of a list or set type in either spelling. -/
def rowName (form : RowForm) : Spelling → String
  | .builtin => form.builtin.nameParts.2
  | .capital =>
    match form with
    | .list => "typing.List"
    | .set => "typing.Set"
    | .frozenset => "typing.FrozenSet"
    | .deque => "typing.Deque"
    | .tuple | .userList => "typing.Tuple"

/-- A form with its parts between brackets. -/
def bracketed (name : String) (parts : List String) : String :=
  name ++ "[" ++ joinWith ", " parts ++ "]"

mutual

/-- The text of a hint. -/
def render (Γ : Classes) : Hint → String
  | .cls c => c.qualified
  | .any => "typing.Any"
  | .nothing => "None"
  | .noReturn => "typing.NoReturn"
  | .never => "typing.Never"
  | .row form spelling item =>
    bracketed (rowName form spelling)
      [match spelling, item with
        | .capital, .nothing => "NoneType"
        | _, item => render Γ item]
  | .dict spelling key value =>
    bracketed (if spelling = .capital then "typing.Dict" else "dict")
      [render Γ key, render Γ value]
  | .tuple items =>
    bracketed "typing.Tuple" (if items.isEmpty then ["()"] else renderAll Γ items)
  | .union members =>
    match members with
    | [h, k] =>
      if isNoneType h then bracketed "typing.Optional" [render Γ k]
      else if isNoneType k then bracketed "typing.Optional" [render Γ h]
      else bracketed "typing.Union" [render Γ h, render Γ k]
    | members => bracketed "typing.Union" (renderAll Γ members)
  | .literal values => bracketed "typing.Literal" (values.map Γ.shown)
  | .annotated base notes =>
    bracketed "typing.Annotated" (render Γ base :: notes.map Note.render)
  | .classVar none => "typing.ClassVar"
  | .classVar (some h) => bracketed "typing.ClassVar" [render Γ h]
  | .initVar none => "dataclasses.InitVar"
  | .initVar (some (.cls c)) => bracketed "dataclasses.InitVar" [c.short]
  | .initVar (some .any) => bracketed "dataclasses.InitVar" ["Any"]
  | .initVar (some h) => bracketed "dataclasses.InitVar" [render Γ h]
  | .written text _ => Text.quoted text
  | .failing text _ => Text.quoted text
  | .textObject text => Text.quoted text
  | .forwardRef name => "ForwardRef(" ++ Text.quoted name ++ ")"
  | .typeVar name => "~" ++ name
  | .object v => Γ.shown v

/-- The texts of hints. -/
def renderAll (Γ : Classes) : List Hint → List String
  | [] => []
  | h :: hs => render Γ h :: renderAll Γ hs

end

end Hint
end Carryover
