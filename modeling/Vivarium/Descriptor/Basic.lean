/-!
# Descriptors

A descriptor is the whole genome of a cell: which of three architectures it
has, and two or three counts. The set of shapes is closed. Every shape has
layers and a width; heads belong to attention and a kernel to convolution, and
a change of one count leaves the shape and the other counts alone.
-/

namespace Vivarium

/-- The three architectures. -/
inductive Kind where
  | attention
  | recurrent
  | convolutional
  deriving DecidableEq, Repr

namespace Kind

def name : Kind → String
  | .attention => "Attention"
  | .recurrent => "Recurrent"
  | .convolutional => "Convolutional"

/-- All architectures, in the order of their positions. -/
def all : List Kind :=
  [.attention, .recurrent, .convolutional]

end Kind

/-- The structural parameters of a cell. -/
inductive Descriptor where
  | attention (layers width heads : UInt32)
  | recurrent (layers width : UInt32)
  | convolutional (layers width kernel : UInt32)
  deriving DecidableEq, Repr

namespace Descriptor

def kind : Descriptor → Kind
  | .attention .. => .attention
  | .recurrent .. => .recurrent
  | .convolutional .. => .convolutional

def layers : Descriptor → UInt32
  | .attention layers _ _ => layers
  | .recurrent layers _ => layers
  | .convolutional layers _ _ => layers

def width : Descriptor → UInt32
  | .attention _ width _ => width
  | .recurrent _ width => width
  | .convolutional _ width _ => width

/-- The number of heads, which only attention has. -/
def heads? : Descriptor → Option UInt32
  | .attention _ _ heads => some heads
  | _ => none

/-- The size of the kernel, which only convolution has. -/
def kernel? : Descriptor → Option UInt32
  | .convolutional _ _ kernel => some kernel
  | _ => none

def withLayers (layers : UInt32) : Descriptor → Descriptor
  | .attention _ width heads => .attention layers width heads
  | .recurrent _ width => .recurrent layers width
  | .convolutional _ width kernel => .convolutional layers width kernel

def withWidth (width : UInt32) : Descriptor → Descriptor
  | .attention layers _ heads => .attention layers width heads
  | .recurrent layers _ => .recurrent layers width
  | .convolutional layers _ kernel => .convolutional layers width kernel

/-- The descriptor with another number of heads, if it has heads. -/
def withHeads (heads : UInt32) : Descriptor → Descriptor
  | .attention layers width _ => .attention layers width heads
  | other => other

/-- The descriptor with another kernel, if it has one. -/
def withKernel (kernel : UInt32) : Descriptor → Descriptor
  | .convolutional layers width _ => .convolutional layers width kernel
  | other => other

/-- A descriptor in short. -/
def text : Descriptor → String
  | .attention layers width heads => s!"attn(L{layers} W{width} H{heads})"
  | .recurrent layers width => s!"rnn(L{layers} W{width})"
  | .convolutional layers width kernel => s!"conv(L{layers} W{width} K{kernel})"

@[simp] theorem kind_withLayers (d : Descriptor) (layers : UInt32) :
    (d.withLayers layers).kind = d.kind := by
  cases d <;> rfl

@[simp] theorem kind_withWidth (d : Descriptor) (width : UInt32) :
    (d.withWidth width).kind = d.kind := by
  cases d <;> rfl

@[simp] theorem kind_withHeads (d : Descriptor) (heads : UInt32) :
    (d.withHeads heads).kind = d.kind := by
  cases d <;> rfl

@[simp] theorem kind_withKernel (d : Descriptor) (kernel : UInt32) :
    (d.withKernel kernel).kind = d.kind := by
  cases d <;> rfl

end Descriptor

end Vivarium
