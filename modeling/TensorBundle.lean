import TensorBundle.Main
import TensorBundle.Proofs.Workspace.Copying
import TensorBundle.Proofs.Handler.ConvolutionWindows
import TensorBundle.Proofs.Handler.ImagePlanes
import TensorBundle.Proofs.Program.Policies
import TensorBundle.Proofs.Program.Repetition
import TensorBundle.Proofs.Registry
import TensorBundle.Proofs.CommandLine.Run
