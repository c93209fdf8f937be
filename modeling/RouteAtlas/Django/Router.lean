/-
Module: RouteAtlas.Django.Router
Layer: Django
Purpose: Routers of a REST framework, as a source file builds them up: they are declared, resources
  are registered with them, and they are mounted at paths, in any order.
Trusted boundary: none
Main exports: Registration, Mounted, Router, Routers, Routers.declare, Routers.register,
  Routers.mount, Routers.isDeclared, Routers.mounted
-/

namespace RouteAtlas.Django

/-- A resource class at a path of a router. -/
structure Registration where
  path : String
  resource : String
  baseName : Option String := none
deriving DecidableEq, Repr, Inhabited

/-- A registration together with the path at which its router is mounted. -/
structure Mounted where
  mount : String
  registration : Registration
deriving DecidableEq, Repr, Inhabited

/-- What is known of one router. -/
structure Router where
  name : String
  declared : Bool := false
  mounts : List String := []
  registrations : List Registration := []
deriving DecidableEq, Repr, Inhabited

/-- All pairs of a mount and a registration, mount by mount. A router that is not mounted anywhere
stands at the root. -/
def Router.mounted (router : Router) : List Mounted :=
  let mounts := if router.mounts.isEmpty then [""] else router.mounts
  mounts.flatMap fun mount => router.registrations.map fun registration => ⟨mount, registration⟩

/-- Routers in the order in which they were first mentioned. -/
abbrev Routers := List Router

namespace Routers

/-- Change the router of a name; a name that is not known yet is added at the end. -/
def update (name : String) (change : Router → Router) : Routers → Routers
  | [] => [change { name := name }]
  | router :: rest =>
      if router.name = name then change router :: rest else router :: update name change rest

/-- A router is created. -/
def declare (name : String) : Routers → Routers :=
  update name fun router => { router with declared := true }

/-- A resource is registered. -/
def register (name : String) (registration : Registration) : Routers → Routers :=
  update name fun router =>
    { router with registrations := router.registrations ++ [registration] }

/-- A router is mounted at a path. -/
def mount (name path : String) : Routers → Routers :=
  update name fun router => { router with mounts := router.mounts ++ [path] }

/-- Whether a name is that of a router that was created. -/
def isDeclared (name : String) (routers : Routers) : Bool :=
  routers.any fun router => router.name == name && router.declared

/-- The mounted registrations of all routers. -/
def mounted (routers : Routers) : List Mounted := routers.flatMap Router.mounted

end Routers

end RouteAtlas.Django
