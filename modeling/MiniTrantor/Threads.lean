import Mathlib

/-!
# Threads

A thread has a stack of what it is in the middle of and a queue of what was posted
to it, which it takes up in order when its stack is empty. The marks of a thread are
what it is still to do, in the order in which it will do it.
-/

set_option autoImplicit false

namespace MiniTrantor

structure Thread (Frame Functor : Type) where
  stack : List Frame := []
  queue : List Functor := []
  exited : Bool := false

namespace Thread

variable {Frame Functor Mark : Type} {thread : Thread Frame Functor}

def push (frame : Frame) (thread : Thread Frame Functor) : Thread Frame Functor :=
  { thread with stack := frame :: thread.stack }

def post (functor : Functor) (thread : Thread Frame Functor) : Thread Frame Functor :=
  { thread with queue := thread.queue ++ [functor] }

def pop (thread : Thread Frame Functor) : Thread Frame Functor :=
  { thread with stack := thread.stack.tail }

def take (thread : Thread Frame Functor) : Thread Frame Functor :=
  { thread with queue := thread.queue.tail }

variable {ofFrame : Frame → List Mark} {ofFunctor : Functor → List Mark}

def marks (ofFrame : Frame → List Mark) (ofFunctor : Functor → List Mark)
    (thread : Thread Frame Functor) : List Mark :=
  thread.stack.flatMap ofFrame ++ thread.queue.flatMap ofFunctor

/-- What is pushed is done before everything else. -/
@[simp] theorem marks_push (frame : Frame) :
    (thread.push frame).marks ofFrame ofFunctor =
      ofFrame frame ++ thread.marks ofFrame ofFunctor := by
  simp [marks, push]

/-- What is posted is done after everything else. -/
@[simp] theorem marks_post (functor : Functor) :
    (thread.post functor).marks ofFrame ofFunctor =
      thread.marks ofFrame ofFunctor ++ ofFunctor functor := by
  simp [marks, post]

theorem marks_pop {frame : Frame} {rest : List Frame} (top : thread.stack = frame :: rest) :
    thread.marks ofFrame ofFunctor = ofFrame frame ++ thread.pop.marks ofFrame ofFunctor := by
  simp [marks, pop, top]

theorem marks_take {functor : Functor} {rest : List Functor} (idle : thread.stack = [])
    (first : thread.queue = functor :: rest) :
    thread.marks ofFrame ofFunctor =
      ofFunctor functor ++ thread.take.marks ofFrame ofFunctor := by
  simp [marks, take, idle, first]

theorem marks_empty (idle : thread.stack = []) (none : thread.queue = []) :
    thread.marks ofFrame ofFunctor = [] := by
  simp [marks, idle, none]

end Thread

end MiniTrantor
