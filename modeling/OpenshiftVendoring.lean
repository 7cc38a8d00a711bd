import OpenshiftVendoring.Certificates.Strategy
import OpenshiftVendoring.Certificates.Lifecycle
import OpenshiftVendoring.Image.Signature
import OpenshiftVendoring.Image.SignatureRest
import OpenshiftVendoring.Image.SignatureInvariants
import OpenshiftVendoring.Path.Clean
import OpenshiftVendoring.Path.Lexical
import OpenshiftVendoring.Path.Refinement
import OpenshiftVendoring.Kubectl.DiscoveryCache
import OpenshiftVendoring.Kubectl.ObjectAccess
import OpenshiftVendoring.Origin.Discovery
import OpenshiftVendoring.Origin.RestOptions
import OpenshiftVendoring.Origin.EtcdStorage
import OpenshiftVendoring.Origin.SubjectReview
import OpenshiftVendoring.Kubectl.PortForward
import OpenshiftVendoring.Origin.BootstrapImport
import OpenshiftVendoring.Client.ConfigDefaults
