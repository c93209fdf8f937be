/-
Module: RouteAtlas.Django.ViewSet
Layer: Django
Purpose: View sets: classes that answer several requests on one resource. Which standard actions one
  has follows from its bases and, for the plain ones, from its methods; extra actions are methods
  with a decorator.
Trusted boundary: none
Main exports: Action, Action.parse?, Action.method, Action.onItem, ExtraAction, ViewSet,
  ViewSet.ofClass?, ViewSet.actions
-/
import RouteAtlas.View
import RouteAtlas.Text.Affix

namespace RouteAtlas.Django

/-- The standard actions on a resource. -/
inductive Action where
  | list
  | create
  | retrieve
  | update
  | partialUpdate
  | destroy
deriving DecidableEq, Repr, Inhabited

namespace Action

/-- The standard actions in their fixed order. -/
def all : List Action := [list, create, retrieve, update, partialUpdate, destroy]

/-- The name of the method that carries out an action. -/
def name : Action → String
  | list => "list"
  | create => "create"
  | retrieve => "retrieve"
  | update => "update"
  | partialUpdate => "partial_update"
  | destroy => "destroy"

/-- The action of a name. -/
def parse? (text : String) : Option Action := all.find? fun action => action.name == text

/-- The request method that asks for an action. -/
def method : Action → Method
  | list => .get
  | create => .post
  | retrieve => .get
  | update => .put
  | partialUpdate => .patch
  | destroy => .delete

/-- Whether an action is about one item and not about the whole collection. -/
def onItem : Action → Bool
  | list => false
  | create => false
  | _ => true

/-- Every action is found by its name. -/
theorem parse?_name (action : Action) : parse? action.name = some action := by
  cases action <;> decide

end Action

/-- An action beyond the standard ones. -/
structure ExtraAction where
  name : String
  onItem : Bool
  methods : List Method
  urlPath : String
deriving DecidableEq, Repr, Inhabited

/-- A view set as its class statement describes it. -/
structure ViewSet where
  name : String
  bases : List String
  definedActions : List Action := []
  extraActions : List ExtraAction := []
  querysetModel : Option String := none
  serializer : Option String := none
  description : Option String := none
deriving DecidableEq, Repr, Inhabited

/-- The extra action that a decorator makes of the method `name`. -/
def ExtraAction.ofDecorator? (name : String) (decorator : Python.Expr) : Option ExtraAction :=
  match decorator.asCall? with
  | none => none
  | some call =>
      if call.func.simpleName? = some "action" then
        let urlPath := ((call.keyword? "url_path").bind Python.Expr.text?).getD name
        some {
          name := name
          onItem := ((call.keyword? "detail").bind Python.Expr.bool?).getD false
          methods := methodsOf call
          urlPath := String.ofList (Text.trimWhere (· = '/') urlPath.toList) }
      else none

/-- The model whose `objects` an expression draws from, through any attributes and calls. -/
def modelOfQueryset? : Python.Expr → Option String
  | .call func _ _ => modelOfQueryset? func
  | .attribute value attr =>
      if attr = "objects" then value.simpleName? else modelOfQueryset? value
  | _ => none

namespace ViewSet

/-- What one statement of the class body says about the view set. -/
def learn (viewSet : ViewSet) : Python.Stmt → ViewSet
  | .assign targets value =>
      match targets.head?.bind Python.Expr.nameId? with
      | some "queryset" => { viewSet with querysetModel := modelOfQueryset? value }
      | some "serializer_class" => { viewSet with serializer := value.simpleName? }
      | _ => viewSet
  | .function name decorators _ =>
      { viewSet with
        definedActions := viewSet.definedActions ++ (Action.parse? name).toList
        extraActions :=
          viewSet.extraActions ++ decorators.filterMap (ExtraAction.ofDecorator? name) }
  | _ => viewSet

/-- The view set that a class statement defines: some base of it must be one by its name. -/
def ofClass? (decl : Python.ClassDecl) : Option ViewSet :=
  let bases := decl.bases.filterMap Python.Expr.simpleName?
  if bases.any fun base => Text.mentions base "ViewSet" then
    let viewSet : ViewSet :=
      { name := decl.name, bases := bases, description := Python.docstring? decl.body }
    some (decl.body.foldl learn viewSet)
  else none

/-- The actions that a base class grants on its own account. -/
def grantedBy? : String → Option (List Action)
  | "ModelViewSet" => some Action.all
  | "ReadOnlyModelViewSet" => some [.list, .retrieve]
  | "ListModelMixin" => some [.list]
  | "CreateModelMixin" => some [.create]
  | "RetrieveModelMixin" => some [.retrieve]
  | "UpdateModelMixin" => some [.update, .partialUpdate]
  | "DestroyModelMixin" => some [.destroy]
  | _ => none

/-- The actions that a base class enables: those it grants, or those that the class defines if the
base leaves all of them to it. -/
def enabledBy (viewSet : ViewSet) (base : String) : List Action :=
  match grantedBy? base with
  | some actions => actions
  | none =>
      if base = "ViewSet" || base = "GenericViewSet" then viewSet.definedActions else []

/-- The actions of a view set of which nothing is known. -/
def fallbackActions : List Action := [.list, .retrieve]

/-- The actions of a view set in the standard order. -/
def actions (viewSet : ViewSet) : List Action :=
  let enabled := viewSet.bases.flatMap viewSet.enabledBy
  let actions := Action.all.filter enabled.contains
  if actions.isEmpty then fallbackActions else actions

end ViewSet

end RouteAtlas.Django
